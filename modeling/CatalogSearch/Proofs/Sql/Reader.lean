import CatalogSearch.Proofs.Sql.Expression
import CatalogSearch.Proofs.Sql.Tame

/-!
# Reading SQL

From the text of a predicate and its parameters to the expression that they stand for. `OR` binds
least, then `AND`, then `NOT`, and a comparison, `IS NULL`, `LIKE` or `IN` binds most; what stands in
parentheses is a unit. The reader knows the part of SQL that the predicates of a search are written
in, and refuses any other text.

A text is read from its end, so that by the time a parenthesis opens, all that it encloses has been
read, and is put together there and then. A question mark takes the last parameter that is left.
`ReadAs` says what a text contributes wherever it stands, and the rules about it put the reading of a
text together from those of its words.
-/

namespace CatalogSearch.Sql

/-! ### Symbols -/

inductive Keyword where
  | not
  | and
  | or
  | is
  | like
  | in_
  | exists_
  | select
  | from_
  | where_
  deriving DecidableEq, Repr

def Keyword.word : Keyword → String
  | not => "NOT"
  | and => "AND"
  | or => "OR"
  | is => "IS"
  | like => "LIKE"
  | in_ => "IN"
  | exists_ => "EXISTS"
  | select => "SELECT"
  | from_ => "FROM"
  | where_ => "WHERE"

def Keyword.all : List Keyword :=
  [not, and, or, is, like, in_, exists_, select, from_, where_]

/-- The smallest parts of SQL that mean something. What stands in parentheses is one of the last
three. -/
inductive Symbol where
  | keyword (k : Keyword)
  | operand (a : Operand)
  | comparison (c : Comparison)
  | comma
  | operands (as : List Operand)
  | query (source : Source) (rowName : String) (e : Expr)
  | expr (e : Expr)

def Symbol.isKeyword (k : Keyword) : Symbol → Bool
  | keyword k' => k = k'
  | _ => false

/-- The symbol of a word: a keyword, `NULL` or a numeral, or else a name. The case of keywords does
not count. -/
def Symbol.ofWord (word : List Char) : Symbol :=
  let upper := word.map Char.toUpper
  match Keyword.all.find? fun k => k.word.toList == upper with
  | some k => keyword k
  | none =>
    if upper == "NULL".toList then operand (.value .null)
    else if word.all Char.isDigit then
      operand (.value (.int (word.foldl (fun n c => 10 * n + (c.toNat - 48)) 0 : Nat)))
    else operand (.name (String.ofList word))

def Symbol.ofSign? (sign : List Char) : Option Symbol :=
  ([.equal, .greaterThan, .greaterOrEqual, .lessThan, .lessOrEqual].find?
    fun c : Comparison => c.sign.toList == sign).map comparison

/-- What is left of a text at one level of its parentheses. A word and a sign may go on to the left;
a gap ends them. -/
inductive Lexeme where
  | gap
  | word (cs : List Char)
  | sign (cs : List Char)
  | quote
  | symbol (s : Symbol)

def symbols? : List Lexeme → Option (List Symbol)
  | [] => some []
  | .gap :: ls => symbols? ls
  | .word cs :: ls => (symbols? ls).map (.ofWord cs :: ·)
  | .sign cs :: ls => (Symbol.ofSign? cs).bind fun s => (symbols? ls).map (s :: ·)
  | .quote :: _ => none
  | .symbol s :: ls => (symbols? ls).map (s :: ·)

/-! ### Expressions -/

/-- An expression that binds most. -/
def atom? : List Symbol → Option Expr
  | [.expr e] => some e
  | [.operand a, .comparison c, .operand b] => some (.compare a c b)
  | [.operand a, .keyword .is, .operand (.value .null)] => some (.isNull a)
  | [.operand a, .keyword .like, .operand b] => some (.like a b)
  | [.operand a, .keyword .in_, .operands bs] => some (.member a bs)
  | [.operand a, .keyword .not, .keyword .in_, .operands bs] => some (.noMember a bs)
  | [.keyword .exists_, .query source rowName e] => some (.exists_ source rowName e)
  | _ => none

def factor? : List Symbol → Option Expr
  | .keyword .not :: ss => (factor? ss).map .not
  | ss => atom? ss

def chain (op : Expr → Expr → Expr) : List Expr → Option Expr
  | [] => none
  | [e] => some e
  | e :: es => (chain op es).map (op e)

def term? (ss : List Symbol) : Option Expr :=
  ((ss.splitOnP (Symbol.isKeyword .and)).mapM factor?).bind (chain .and)

def expr? (ss : List Symbol) : Option Expr :=
  ((ss.splitOnP (Symbol.isKeyword .or)).mapM term?).bind (chain .or)

def operands? : List Symbol → Option (List Operand)
  | [.operand a] => some [a]
  | .operand a :: .comma :: ss => (operands? ss).map (a :: ·)
  | _ => none

/-- A subquery: what it selects does not matter, as it is only asked whether there is a row. -/
def query? : List Symbol → Option Symbol
  | .keyword .select :: .operand _ :: .keyword .from_ :: .operand (.name table) ::
      .operand (.name rowName) :: .keyword .where_ :: ss =>
    (expr? ss).map (.query (.table table) rowName)
  | .keyword .select :: .operand _ :: .keyword .from_ :: .operand (.name function) ::
      .operands [.name column] :: .operand (.name rowName) :: .keyword .where_ :: ss =>
    if function = "json_each" then (expr? ss).map (.query (.items column) rowName) else none
  | _ => none

/-- What stands in parentheses, as one symbol. -/
def unit? (ss : List Symbol) : Option Symbol :=
  (operands? ss).map .operands <|> query? ss <|> (expr? ss).map .expr

/-! ### Reading -/

/-- How far a text has been read: the level of parentheses at hand, the levels around it, and the
parameters that are left, the last one first. -/
structure Reading where
  level : List Lexeme
  around : List (List Lexeme)
  values : List Value

namespace Reading

def put (r : Reading) (l : Lexeme) : Reading := { r with level := l :: r.level }

/-- A character of a word goes to the word that begins behind it. -/
def putWord (r : Reading) (c : Char) : Reading :=
  match r.level with
  | .word cs :: ls => { r with level := .word (c :: cs) :: ls }
  | ls => { r with level := .word [c] :: ls }

def putSign (r : Reading) (c : Char) : Reading :=
  match r.level with
  | .sign cs :: ls => { r with level := .sign (c :: cs) :: ls }
  | ls => { r with level := .sign [c] :: ls }

/-- Two quotes are the empty text. No other text is quoted. -/
def putQuote (r : Reading) : Reading :=
  match r.level with
  | .quote :: ls => { r with level := .symbol (.operand (.value (.text ""))) :: ls }
  | ls => { r with level := .quote :: ls }

def step (c : Char) (r : Reading) : Option Reading :=
  if isNamePart c then some (r.putWord c)
  else if "<=>".toList.contains c then some (r.putSign c)
  else if c = ' ' then some (r.put .gap)
  else if c = ',' then some (r.put (.symbol .comma))
  else if c = '\'' then some r.putQuote
  else if c = '?' then
    match r.values with
    | [] => none
    | v :: vs => some ({ r with values := vs }.put (.symbol (.operand (.value v))))
  else if c = ')' then some ⟨[], r.level :: r.around, r.values⟩
  else if c = '(' then
    match r.around with
    | [] => none
    | outer :: around =>
      ((symbols? r.level).bind unit?).map fun s => ⟨.symbol s :: outer, around, r.values⟩
  else none

end Reading

/-- Reads a text from its end on. -/
def scan : List Char → Reading → Option Reading
  | [], r => some r
  | c :: cs, r => (scan cs r).bind (Reading.step c)

def read (text : String) (parameters : List Value) : Option Expr :=
  match scan text.toList ⟨[], [], parameters.reverse⟩ with
  | some ⟨level, [], []⟩ => (symbols? level).bind expr?
  | _ => none

example : read "NOT (a = ?) AND b IS NULL OR c IN (?, 2)" [.int 7, .text "x"]
    = some (.or (.and (.not (.compare (.name "a") .equal (.value (.int 7)))) (.isNull (.name "b")))
      (.member (.name "c") [.value (.text "x"), .value (.int 2)])) := by rfl

/-! ### What a text contributes -/

theorem scan_append (xs ys : List Char) (r : Reading) :
    scan (xs ++ ys) r = (scan ys r).bind (scan xs) := by
  induction xs with
  | nil =>
    cases hys : scan ys r with
    | none => simp [hys]
    | some r' => simp [hys, scan]
  | cons x xs ih =>
    rw [List.cons_append, scan, ih, Option.bind_assoc]
    rfl

theorem symbols?_append {ls ms : List Lexeme} {ss ts : List Symbol} (hls : symbols? ls = some ss)
    (hms : symbols? ms = some ts) : symbols? (ls ++ ms) = some (ss ++ ts) := by
  induction ls generalizing ss with
  | nil =>
    cases hls
    exact hms
  | cons l ls ih =>
    cases l with
    | gap => exact ih hls
    | quote => cases hls
    | sign cs =>
      obtain ⟨s, hs, hmap⟩ := Option.bind_eq_some_iff.1 hls
      obtain ⟨rest, hrest, rfl⟩ := Option.map_eq_some_iff.1 hmap
      rw [List.cons_append, symbols?, hs, Option.bind_some, ih hrest]
      rfl
    | word cs =>
      obtain ⟨rest, hrest, rfl⟩ := Option.map_eq_some_iff.1 hls
      rw [List.cons_append, symbols?, ih hrest]
      rfl
    | symbol s =>
      obtain ⟨rest, hrest, rfl⟩ := Option.map_eq_some_iff.1 hls
      rw [List.cons_append, symbols?, ih hrest]
      rfl

/-- Whether a level begins with something that the text in front of it may go on with. -/
def beginsOpen : List Lexeme → Bool
  | .word _ :: _ => true
  | .sign _ :: _ => true
  | .quote :: _ => true
  | _ => false

/-- A text contributes some symbols and takes some parameters, wherever it stands, if nothing behind
it goes on with its last word. -/
def ReadAs (text : String) (ps : List Value) (ss : List Symbol) : Prop :=
  ∀ r : Reading, beginsOpen r.level = false →
    ∃ ls, scan text.toList { r with values := ps.reverse ++ r.values }
        = some { r with level := ls ++ r.level } ∧ symbols? ls = some ss

/-- A text that can stand between two others, and what it contributes itself. -/
def Separates (sep : String) (between : List Symbol) : Prop :=
  ∀ r : Reading, ∃ ls, scan sep.toList r = some { r with level := ls ++ r.level } ∧
    symbols? ls = some between ∧ beginsOpen (ls ++ r.level) = false

theorem separates_blank : Separates " " [] := fun _ => ⟨[.gap], rfl, rfl, rfl⟩

theorem separates_comma : Separates ", " [.comma] :=
  fun _ => ⟨[.symbol .comma, .gap], rfl, rfl, rfl⟩

theorem separates_or : Separates " OR " [.keyword .or] :=
  fun _ => ⟨[.gap, .word "OR".toList, .gap], rfl, rfl, rfl⟩

theorem separates_and : Separates " AND " [.keyword .and] :=
  fun _ => ⟨[.gap, .word "AND".toList, .gap], rfl, rfl, rfl⟩

namespace ReadAs

variable {a b : String} {ps qs : List Value} {ss ts : List Symbol}

theorem append {sep : String} {between : List Symbol} (hsep : Separates sep between)
    (ha : ReadAs a ps ss) (hb : ReadAs b qs ts) :
    ReadAs (a ++ sep ++ b) (ps ++ qs) (ss ++ between ++ ts) := by
  intro r hr
  obtain ⟨lsb, hscanb, hlsb⟩ := hb { r with values := ps.reverse ++ r.values } hr
  obtain ⟨lsm, hscanm, hlsm, hopen⟩ :=
    hsep { r with level := lsb ++ r.level, values := ps.reverse ++ r.values }
  obtain ⟨lsa, hscana, hlsa⟩ := ha { r with level := lsm ++ (lsb ++ r.level) } hopen
  refine ⟨lsa ++ lsm ++ lsb, ?_, symbols?_append (symbols?_append hlsa hlsm) hlsb⟩
  dsimp only at hscanb hscanm hscana
  rw [String.toList_append, String.toList_append, scan_append, List.reverse_append,
    List.append_assoc, hscanb, Option.bind_some, scan_append, hscanm, Option.bind_some, hscana]
  simp only [List.append_assoc]

theorem intercalate {sep : String} {between : List Symbol} (hsep : Separates sep between)
    {α : Type} {text : α → String} {values : α → List Value} {symbols : α → List Symbol}
    {xs : List α} (hne : xs ≠ []) (hxs : ∀ x ∈ xs, ReadAs (text x) (values x) (symbols x)) :
    ReadAs (String.intercalate sep (xs.map text)) (xs.flatMap values)
      (between.intercalate (xs.map symbols)) := by
  induction xs with
  | nil => exact absurd rfl hne
  | cons x xs ih =>
    have hx := hxs x List.mem_cons_self
    cases xs with
    | nil => simpa using hx
    | cons y ys =>
      have hrest := ih (List.cons_ne_nil y ys) fun z hz => hxs z (List.mem_cons_of_mem x hz)
      have happend := append hsep hx hrest
      rw [List.map_cons, List.map_cons, String.intercalate_cons_cons, List.map_cons, List.map_cons,
        List.intercalate_cons_cons]
      exact happend

theorem word {s : String} (h : Name s) : ReadAs s [] [.ofWord s.toList] := by
  have hscan : ∀ (cs : List Char) (r : Reading), (∀ c ∈ cs, isNamePart c = true) → cs ≠ [] →
      beginsOpen r.level = false → scan cs r = some (r.put (.word cs)) := by
    intro cs
    induction cs with
    | nil => exact fun _ _ hne => absurd rfl hne
    | cons c cs ih =>
      intro r hcs _ hr
      have hstep : Reading.step c = fun r => some (r.putWord c) :=
        funext fun r => if_pos (hcs c List.mem_cons_self)
      cases cs with
      | nil =>
        obtain ⟨level, around, values⟩ := r
        rw [scan, scan, Option.bind_some, hstep]
        cases level with
        | nil => rfl
        | cons l ls =>
          cases l with
          | gap => rfl
          | symbol s => rfl
          | _ => cases hr
      | cons d cs =>
        rw [scan, ih r (fun e he => hcs e (List.mem_cons_of_mem c he)) (List.cons_ne_nil d cs) hr,
          Option.bind_some, hstep]
        rfl
  intro r hr
  have hne : s.toList ≠ [] := by
    intro hnil
    have hempty := h.ne
    rw [String.toList_eq_nil_iff.1 hnil] at hempty
    cases hempty
  exact ⟨[.word s.toList], hscan _ r (fun c hc => h.isNamePart hc) hne hr, rfl⟩

theorem sign (c : Comparison) : ReadAs c.sign [] [.comparison c] := by
  rintro ⟨level, around, values⟩ hr
  refine ⟨[.sign c.sign.toList], ?_, by cases c <;> rfl⟩
  cases level with
  | nil => cases c <;> rfl
  | cons l ls =>
    cases l with
    | gap => cases c <;> rfl
    | symbol s => cases c <;> rfl
    | _ => cases hr

theorem emptyText : ReadAs "''" [] [.operand (.value (.text ""))] := by
  rintro ⟨level, around, values⟩ hr
  refine ⟨[.symbol (.operand (.value (.text "")))], ?_, rfl⟩
  cases level with
  | nil => rfl
  | cons l ls =>
    cases l with
    | quote => cases hr
    | _ => rfl

theorem mark (v : Value) : ReadAs "?" [v] [.operand (.value v)] :=
  fun _ _ => ⟨[.symbol (.operand (.value v))], rfl, rfl⟩

theorem scan_enclose {s : Symbol} (ha : ReadAs a ps ss) (hs : unit? ss = some s) (r : Reading) :
    scan (enclose a).toList { r with values := ps.reverse ++ r.values }
      = some (r.put (.symbol s)) := by
  obtain ⟨ls, hscan, hls⟩ := ha ⟨[], r.level :: r.around, r.values⟩ rfl
  have hclose : scan ")".toList { r with values := ps.reverse ++ r.values }
      = some ⟨[], r.level :: r.around, ps.reverse ++ r.values⟩ := rfl
  have hopen : scan "(".toList ⟨ls ++ [], r.level :: r.around, r.values⟩
      = ((symbols? (ls ++ [])).bind unit?).map fun s => r.put (.symbol s) := rfl
  rw [Sql.enclose, String.toList_append, String.toList_append, scan_append, hclose,
    Option.bind_some, scan_append, hscan, Option.bind_some, hopen, List.append_nil, hls,
    Option.bind_some, hs]
  rfl

/-- What stands in parentheses is one symbol. -/
theorem enclose {s : Symbol} (ha : ReadAs a ps ss) (hs : unit? ss = some s) :
    ReadAs (Sql.enclose a) ps [s] :=
  fun r _ => ⟨[.symbol s], scan_enclose ha hs r, rfl⟩

theorem not (ha : ReadAs a ps ss) : ReadAs ("NOT " ++ a) ps (.keyword .not :: ss) := by
  have hnot : ReadAs "NOT" [] [.keyword .not] := .word (by decide)
  have hread := append separates_blank hnot ha
  rw [show "NOT" ++ " " = "NOT " from rfl] at hread
  exact hread

theorem call {f : String} (hf : Name f) {s : Symbol} (ha : ReadAs a ps ss)
    (hs : unit? ss = some s) : ReadAs (f ++ Sql.enclose a) ps [.ofWord f.toList, s] := by
  intro r _
  obtain ⟨ls, hscan, hls⟩ := word hf (r.put (.symbol s)) rfl
  refine ⟨ls ++ [.symbol s], ?_, symbols?_append hls rfl⟩
  rw [String.toList_append, scan_append, scan_enclose ha hs, Option.bind_some, List.append_assoc]
  exact hscan

end ReadAs

/-! ### What a text says -/

/-- A name that is no keyword and no numeral, so that it can stand for a column or a table. -/
structure FreeName (s : String) : Prop where
  name : Name s
  symbol : Symbol.ofWord s.toList = .operand (.name s)

theorem FreeName.readAs {s : String} (h : FreeName s) : ReadAs s [] [.operand (.name s)] := by
  rw [← h.symbol]
  exact .word h.name

/-- A qualified name has a dot, which no keyword and no numeral has. -/
theorem FreeName.qualify {s t : String} (hs : Name s) (ht : Name t) : FreeName (s ++ "." ++ t) where
  name := hs.qualify ht
  symbol := by
    have hdot : '.' ∈ (s ++ "." ++ t).toList := by simp [String.toList_append]
    have hupper : '.' ∈ (s ++ "." ++ t).toList.map Char.toUpper :=
      List.mem_map.2 ⟨'.', hdot, by decide⟩
    have hkeyword : (Keyword.all.find? fun k =>
        k.word.toList == (s ++ "." ++ t).toList.map Char.toUpper) = none := by
      rw [List.find?_eq_none]
      intro k _ hk
      rw [← eq_of_beq hk] at hupper
      cases k <;> exact absurd hupper (by decide)
    have hnull : ((s ++ "." ++ t).toList.map Char.toUpper == "NULL".toList) = false := by
      rw [beq_eq_false_iff_ne]
      intro hnull
      rw [hnull] at hupper
      exact absurd hupper (by decide)
    have hdigits : (s ++ "." ++ t).toList.all Char.isDigit = false :=
      List.all_eq_false.2 ⟨'.', hdot, by decide⟩
    rw [Symbol.ofWord, hkeyword]
    simp only [hnull, hdigits, Bool.false_eq_true, if_false, String.ofList_toList]

/-- A text with parameters says what an expression says, by itself and in parentheses. -/
structure Says (text : String) (ps : List Value) (e : Expr) : Prop where
  exists_symbols : ∃ ss, ReadAs text ps ss ∧ expr? ss = some e ∧ unit? ss = some (.expr e)

namespace Says

variable {text : String} {ps : List Value} {e : Expr}

theorem read_eq (h : Says text ps e) : read text ps = some e := by
  obtain ⟨ss, hreadAs, hexpr, -⟩ := h
  obtain ⟨ls, hscan, hls⟩ := hreadAs ⟨[], [], []⟩ rfl
  rw [List.append_nil, List.append_nil] at hscan
  rw [read, hscan]
  exact (congrArg (Option.bind · expr?) hls).trans hexpr

theorem not_enclose (h : Says text ps e) : Says ("NOT " ++ enclose text) ps (.not e) := by
  obtain ⟨ss, hreadAs, -, hunit⟩ := h
  exact ⟨_, (hreadAs.enclose hunit).not, rfl, rfl⟩

end Says

end CatalogSearch.Sql
