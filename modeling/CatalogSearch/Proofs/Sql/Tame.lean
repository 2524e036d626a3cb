import CatalogSearch.Proofs.Sql.Nesting

/-!
# Texts that keep to themselves

A text goes into a query between two parentheses. It does nothing to the text around it if it closes
the parentheses that it opens and has no character that ends a statement, begins a comment or opens
a quotation. `Inert` says so. Names, signs and placeholders are tame, character by character, and
whatever is put together from tame texts is tame; the one text with quotes in it is the test for an
empty text.
-/

namespace CatalogSearch.Sql

/-- The characters of names, signs and placeholders. -/
def isFlat (c : Char) : Bool := isIdentifierPart c || " .,?=<>".toList.contains c

/-- Those characters and the parentheses. -/
def isTame (c : Char) : Bool := isFlat c || c == '(' || c == ')'

def Flat (s : String) : Prop := s.toList.all isFlat = true

def Tame (s : String) : Prop := s.toList.all isTame = true

instance (s : String) : Decidable (Flat s) :=
  inferInstanceAs (Decidable (s.toList.all isFlat = true))

instance (s : String) : Decidable (Tame s) :=
  inferInstanceAs (Decidable (s.toList.all isTame = true))

/-- A tame text whose parentheses are its own. -/
structure Nested (s : String) : Prop where
  tame : Tame s
  balanced : Balanced s

/-- The characters of names: those of identifiers, and the dot behind the name of a table. -/
def isNamePart (c : Char) : Bool := isIdentifierPart c || c == '.'

/-- The name of a column or a table, perhaps with a table in front and a dot between. -/
structure Name (s : String) : Prop where
  ne : s.isEmpty = false
  chars : s.toList.all isNamePart = true

instance (s : String) : Decidable (Name s) :=
  decidable_of_iff (s.isEmpty = false ∧ s.toList.all isNamePart = true)
    ⟨fun h => ⟨h.1, h.2⟩, fun h => ⟨h.ne, h.chars⟩⟩

/-- The characters that open a quotation in some dialect. -/
def quoteMarks : List Char := "'\"`".toList

def emptyTest (column : String) : String := column ++ " IS NULL OR " ++ column ++ " = ''"

/-- A text that can do nothing to the query around it. The only quotes that it may hold are those of
the empty text, with which a column is compared. -/
structure Inert (s : String) : Prop where
  balanced : Balanced s
  noEnd : ';' ∉ s.toList
  noLineComment : ¬"--".toList <:+: s.toList
  noBlockComment : ¬"/*".toList <:+: s.toList
  noQuote : (∀ c ∈ quoteMarks, c ∉ s.toList) ∨
    ∃ column, (∀ c ∈ quoteMarks, c ∉ column.toList) ∧
      (s = emptyTest column ∨ s = "NOT (" ++ emptyTest column ++ ")")

/-! ### Characters -/

theorem Flat.isFlat {s : String} (h : Flat s) {c : Char} (hc : c ∈ s.toList) :
    Sql.isFlat c = true := List.all_eq_true.1 h c hc

theorem Tame.isTame {s : String} (h : Tame s) {c : Char} (hc : c ∈ s.toList) :
    Sql.isTame c = true := List.all_eq_true.1 h c hc

theorem Name.isNamePart {s : String} (h : Name s) {c : Char} (hc : c ∈ s.toList) :
    Sql.isNamePart c = true := List.all_eq_true.1 h.chars c hc

theorem Flat.tame {s : String} (h : Flat s) : Tame s := by
  apply List.all_eq_true.2
  intro c hc
  rw [Sql.isTame, h.isFlat hc]
  rfl

theorem Flat.append {s t : String} (hs : Flat s) (ht : Flat t) : Flat (s ++ t) := by
  rw [Flat, String.toList_append, List.all_append, hs, ht]
  rfl

theorem Tame.append {s t : String} (hs : Tame s) (ht : Tame t) : Tame (s ++ t) := by
  rw [Tame, String.toList_append, List.all_append, hs, ht]
  rfl

theorem forall_mem_intercalate {P : Char → Prop} {sep : String} (hsep : ∀ c ∈ sep.toList, P c)
    {xs : List String} (hxs : ∀ x ∈ xs, ∀ c ∈ x.toList, P c) :
    ∀ c ∈ (String.intercalate sep xs).toList, P c := by
  induction xs with
  | nil =>
    intro c hc
    simp at hc
  | cons x xs ih =>
    have hx := hxs x List.mem_cons_self
    have htail := ih fun y hy => hxs y (List.mem_cons_of_mem _ hy)
    cases xs with
    | nil =>
      rw [String.intercalate_singleton]
      exact hx
    | cons y ys =>
      intro c hc
      rw [String.intercalate_cons_cons, String.toList_append, String.toList_append,
        List.mem_append, List.mem_append] at hc
      rcases hc with (hc | hc) | hc
      · exact hx c hc
      · exact hsep c hc
      · exact htail c hc

theorem Flat.intercalate {sep : String} (hsep : Flat sep) {xs : List String}
    (hxs : ∀ x ∈ xs, Flat x) : Flat (String.intercalate sep xs) := by
  apply List.all_eq_true.2
  exact forall_mem_intercalate (fun c hc => hsep.isFlat hc) fun x hx c hc => (hxs x hx).isFlat hc

theorem flat_placeholders (n : Nat) : Flat (Query.placeholders n) := by
  refine Flat.intercalate (by decide) ?_
  intro x hx
  rw [List.eq_of_mem_replicate hx]
  decide

theorem Name.flat {s : String} (h : Name s) : Flat s := by
  apply List.all_eq_true.2
  intro c hc
  have hchar := h.isNamePart hc
  rw [Sql.isNamePart, Bool.or_eq_true] at hchar
  rw [isFlat]
  rcases hchar with hpart | hdot
  · rw [hpart]
    rfl
  · rw [eq_of_beq hdot]
    rfl

theorem Name.of_isIdentifier {s : String} (h : isIdentifier s = true) : Name s := by
  rw [isIdentifier] at h
  split at h
  case h_1 => cases h
  case h_2 c cs hcs =>
    rw [Bool.and_eq_true, List.all_eq_true] at h
    constructor
    · cases hempty : s.isEmpty with
      | false => rfl
      | true =>
        rw [String.isEmpty_iff.1 hempty] at hcs
        cases hcs
    · rw [hcs, List.all_cons, Sql.isNamePart, isIdentifierPart, h.1]
      apply List.all_eq_true.2
      intro d hd
      rw [Sql.isNamePart, h.2 d hd]
      rfl

theorem Name.qualify {s t : String} (hs : Name s) (ht : Name t) : Name (s ++ "." ++ t) where
  ne := by
    cases hempty : (s ++ "." ++ t).isEmpty with
    | false => rfl
    | true => simp [String.isEmpty_iff] at hempty
  chars := by
    rw [String.toList_append, String.toList_append, List.all_append, List.all_append, hs.chars,
      ht.chars]
    rfl

/-! ### Ends -/

/-- Neither end of the text is blank. -/
structure Compact (s : String) : Prop where
  start : s.toList.head?.any (!Text.isBlank ·) = true
  finish : s.toList.getLast?.any (!Text.isBlank ·) = true

theorem dropWhile_of_head {p : Char → Bool} {cs : List Char} (h : cs.head?.any (!p ·) = true) :
    cs.dropWhile p = cs := by
  cases cs with
  | nil => cases h
  | cons c cs =>
    have hc : ¬p c = true := by simpa using h
    rw [List.dropWhile_cons_of_neg hc]

theorem Compact.trim {s : String} (h : Compact s) : Text.trim s = s := by
  rw [Text.trim, Text.stripChars, dropWhile_of_head h.start, dropWhile_of_head, List.reverse_reverse,
    String.ofList_toList]
  rw [List.head?_reverse]
  exact h.finish

theorem head_append {s t : String} (h : s.toList.head?.any (!Text.isBlank ·) = true) :
    (s ++ t).toList.head?.any (!Text.isBlank ·) = true := by
  rw [String.toList_append, List.head?_append]
  cases hs : s.toList.head? with
  | none =>
    rw [hs] at h
    cases h
  | some c =>
    rw [hs] at h
    exact h

theorem last_append {s t : String} (h : t.toList.getLast?.any (!Text.isBlank ·) = true) :
    (s ++ t).toList.getLast?.any (!Text.isBlank ·) = true := by
  rw [String.toList_append, List.getLast?_append]
  cases ht : t.toList.getLast? with
  | none =>
    rw [ht] at h
    cases h
  | some c =>
    rw [ht] at h
    exact h

theorem not_isBlank_of_isNamePart {c : Char} (h : isNamePart c = true) :
    Text.isBlank c = false := by
  have hrange : 0x2e ≤ c.toNat ∧ c.toNat ≤ 0x7a := by
    simp only [isNamePart, isIdentifierPart, isIdentifierStart, Bool.or_eq_true, Bool.and_eq_true,
      decide_eq_true_eq, beq_iff_eq, Char.le_def, UInt32.le_iff_toNat_le] at h
    rcases h with (((⟨hlow, hhigh⟩ | ⟨hlow, hhigh⟩) | rfl) | ⟨hlow, hhigh⟩) | rfl
    · exact ⟨Nat.le_trans (by decide) hlow, Nat.le_trans hhigh (by decide)⟩
    · exact ⟨Nat.le_trans (by decide) hlow, Nat.le_trans hhigh (by decide)⟩
    · decide
    · exact ⟨Nat.le_trans (by decide) hlow, Nat.le_trans hhigh (by decide)⟩
    · decide
  obtain ⟨hlow, hhigh⟩ := hrange
  simp only [Text.isBlank, Text.isWhiteSpace, Bool.or_eq_false_iff, Bool.and_eq_false_iff,
    decide_eq_false_iff_not, beq_eq_false_iff_ne]
  omega

theorem Name.head {s : String} (h : Name s) : s.toList.head?.any (!Text.isBlank ·) = true := by
  cases hs : s.toList with
  | nil =>
    have hempty := h.ne
    rw [String.toList_eq_nil_iff.1 hs] at hempty
    cases hempty
  | cons c cs =>
    have hc : Text.isBlank c = false := not_isBlank_of_isNamePart (h.isNamePart (by simp [hs]))
    simp [hc]

/-! ### Depth -/

theorem Flat.depthAfter {s : String} (h : Flat s) (d : Nat) :
    Sql.depthAfter d s.toList = some d := by
  apply depthAfter_of_forall
  intro c hc
  constructor
  · rintro rfl
    exact absurd (h.isFlat hc) (by decide)
  · rintro rfl
    exact absurd (h.isFlat hc) (by decide)

theorem Balanced.append {s t : String} (hs : Balanced s) (ht : Balanced t) :
    Balanced (s ++ t) := by
  rw [Balanced, String.toList_append, depthAfter_append, hs]
  exact ht

theorem Balanced.enclose {s : String} (h : Balanced s) : Balanced (enclose s) := by
  have hdepth : Sql.depthAfter 1 s.toList = some 1 := Balanced.depthAfter h 1
  rw [Balanced, Sql.enclose, String.toList_append, String.toList_append, List.append_assoc,
    depthAfter_append, show Sql.depthAfter 0 "(".toList = some 1 from rfl, Option.bind_some,
    depthAfter_append, hdepth]
  rfl

theorem Flat.nested {s : String} (h : Flat s) : Nested s := ⟨h.tame, h.depthAfter 0⟩

theorem Nested.append {s t : String} (hs : Nested s) (ht : Nested t) : Nested (s ++ t) :=
  ⟨hs.tame.append ht.tame, hs.balanced.append ht.balanced⟩

theorem Nested.enclose {s : String} (h : Nested s) : Nested (enclose s) := by
  refine ⟨?_, h.balanced.enclose⟩
  have hopen : Tame "(" := by decide
  have hclose : Tame ")" := by decide
  exact (hopen.append h.tame).append hclose

/-! ### Inert texts -/

theorem not_infix_of_not_mem {word text : List Char} {c : Char} (hword : c ∈ word)
    (htext : c ∉ text) : ¬word <:+: text :=
  fun h => htext (h.subset hword)

theorem not_mem_of_tame {s : String} (h : Tame s) : ∀ c ∈ quoteMarks, c ∉ s.toList := by
  have hquotes : quoteMarks.all (!isTame ·) = true := by decide
  intro c hquote hc
  have hnot := List.all_eq_true.1 hquotes c hquote
  rw [h.isTame hc] at hnot
  cases hnot

theorem Nested.inert {s : String} (h : Nested s) : Inert s where
  balanced := h.balanced
  noEnd := fun hc => absurd (h.tame.isTame hc) (by decide)
  noLineComment :=
    not_infix_of_not_mem (c := '-') (by decide) fun hc => absurd (h.tame.isTame hc) (by decide)
  noBlockComment :=
    not_infix_of_not_mem (c := '/') (by decide) fun hc => absurd (h.tame.isTame hc) (by decide)
  noQuote := Or.inl (not_mem_of_tame h.tame)

def isTameOrQuote (c : Char) : Bool := isTame c || c == '\''

/-- A text with quotes is inert if they are those of a test for an empty text. -/
theorem inert_of_quotes {s column : String} (hcolumn : Tame column) (hbalanced : Balanced s)
    (hchars : s.toList.all isTameOrQuote = true)
    (hs : s = emptyTest column ∨ s = "NOT (" ++ emptyTest column ++ ")") : Inert s where
  balanced := hbalanced
  noEnd := fun hc => absurd (List.all_eq_true.1 hchars _ hc) (by decide)
  noLineComment :=
    not_infix_of_not_mem (c := '-') (by decide) fun hc =>
      absurd (List.all_eq_true.1 hchars _ hc) (by decide)
  noBlockComment :=
    not_infix_of_not_mem (c := '/') (by decide) fun hc =>
      absurd (List.all_eq_true.1 hchars _ hc) (by decide)
  noQuote := Or.inr ⟨column, not_mem_of_tame hcolumn, hs⟩

theorem Tame.isTameOrQuote {s : String} (h : Tame s) :
    s.toList.all Sql.isTameOrQuote = true := by
  apply List.all_eq_true.2
  intro c hc
  rw [Sql.isTameOrQuote, h.isTame hc]
  rfl

theorem chars_emptyTest {column : String} (h : Tame column) :
    (emptyTest column).toList.all isTameOrQuote = true := by
  have hnull : " IS NULL OR ".toList.all isTameOrQuote = true := by decide
  have hempty : " = ''".toList.all isTameOrQuote = true := by decide
  simp only [emptyTest, String.toList_append, List.all_append, h.isTameOrQuote, hnull, hempty,
    Bool.and_true]

theorem balanced_emptyTest {column : String} (h : Balanced column) :
    Balanced (emptyTest column) := by
  have hnull : Balanced " IS NULL OR " := by rfl
  have hempty : Balanced " = ''" := by rfl
  exact ((h.append hnull).append h).append hempty

theorem not_enclosed (s : String) : "NOT (" ++ s ++ ")" = "NOT " ++ enclose s := by
  rw [show "NOT (" = "NOT " ++ "(" from rfl, enclose]
  simp only [String.append_assoc]

theorem inert_emptyTest {column : String} (h : Nested column) : Inert (emptyTest column) :=
  inert_of_quotes h.tame (balanced_emptyTest h.balanced) (chars_emptyTest h.tame) (Or.inl rfl)

theorem inert_not_emptyTest {column : String} (h : Nested column) :
    Inert ("NOT (" ++ emptyTest column ++ ")") := by
  refine inert_of_quotes h.tame ?_ ?_ (Or.inr rfl)
  · have hnot : Balanced "NOT " := by rfl
    rw [not_enclosed]
    exact hnot.append (balanced_emptyTest h.balanced).enclose
  · have hopen : "NOT (".toList.all isTameOrQuote = true := by decide
    have hclose : ")".toList.all isTameOrQuote = true := by decide
    simp only [String.toList_append, List.all_append, chars_emptyTest h.tame, hopen, hclose,
      Bool.and_true]

end CatalogSearch.Sql
