import CatalogSearch.Proofs.Registry
import CatalogSearch.Proofs.Sql.Reader

/-!
# What the conditions of a search say

The SQL of a condition, read back with its parameters, is the expression that the condition was
written for: every question mark has its own value, a negation reaches as far as its parentheses, and
in a subquery the conditions on the inner row stay inside. The names of columns and tables must be
names and no keywords; nothing is asked of the values.
-/

namespace CatalogSearch

open Sql

def Condition.Says (c : Condition) (e : Expr) : Prop := Sql.Says c.text c.parameters e

namespace Condition

/-! ### Tests of a column -/

section

variable {column : String} (hcolumn : FreeName column)

include hcolumn

theorem readAs_compare (comparison : Comparison) (v : Value) :
    ReadAs (compare column comparison v).text [v]
      [.operand (.name column), .comparison comparison, .operand (.value v)] := by
  have htext : (compare column comparison v).text
      = column ++ " " ++ (comparison.sign ++ " " ++ "?") := by
    rw [text, show " ?" = " " ++ "?" from rfl]
    simp only [String.append_assoc]
  rw [htext]
  exact .append separates_blank hcolumn.readAs
    (.append separates_blank (.sign comparison) (.mark v))

theorem says_compare (comparison : Comparison) (v : Value) :
    (compare column comparison v).Says (.compare (.name column) comparison (.value v)) :=
  ⟨_, readAs_compare hcolumn comparison v, rfl, rfl⟩

theorem readAs_isNull :
    ReadAs (isNull column).text []
      [.operand (.name column), .keyword .is, .operand (.value .null)] := by
  have htext : (isNull column).text = column ++ " " ++ ("IS" ++ " " ++ "NULL") := by
    rw [text, show " IS NULL" = " " ++ ("IS" ++ " " ++ "NULL") from rfl]
    simp only [String.append_assoc]
  have his : ReadAs "IS" [] [.keyword .is] := .word (by decide)
  have hnull : ReadAs "NULL" [] [.operand (.value .null)] := .word (by decide)
  rw [htext]
  exact .append separates_blank hcolumn.readAs (.append separates_blank his hnull)

theorem says_isNull : (isNull column).Says (.isNull (.name column)) :=
  ⟨_, readAs_isNull hcolumn, rfl, rfl⟩

theorem says_isNullOrEmpty :
    (isNullOrEmpty column).Says
      (.or (.isNull (.name column)) (.compare (.name column) .equal (.value (.text "")))) := by
  have htext : (isNullOrEmpty column).text
      = (isNull column).text ++ " OR " ++ (column ++ " " ++ (Comparison.equal.sign ++ " " ++ "''")) := by
    rw [text, text, show " IS NULL OR " = " IS NULL" ++ " OR " from rfl,
      show " = ''" = " " ++ (Comparison.equal.sign ++ " " ++ "''") from rfl]
    simp only [String.append_assoc]
  have hempty := ReadAs.append separates_blank hcolumn.readAs
    (.append separates_blank (.sign .equal) .emptyText)
  have hread := ReadAs.append separates_or (readAs_isNull hcolumn) hempty
  rw [← htext] at hread
  exact ⟨_, hread, rfl, rfl⟩

theorem says_contains (part : Text) :
    (contains column part).Says (.like (.name column) (.value (.text ("%" ++ part ++ "%")))) := by
  have htext : (contains column part).text = column ++ " " ++ ("LIKE" ++ " " ++ "?") := by
    rw [text, show " LIKE ?" = " " ++ ("LIKE" ++ " " ++ "?") from rfl]
    simp only [String.append_assoc]
  have hlike : ReadAs "LIKE" [] [.keyword .like] := .word (by decide)
  have hread := ReadAs.append separates_blank hcolumn.readAs
    (.append separates_blank hlike (.mark (.text ("%" ++ part ++ "%"))))
  rw [← htext] at hread
  exact ⟨_, hread, rfl, rfl⟩

end

theorem Says.negation {c : Condition} {e : Expr} (h : c.Says e) :
    (Condition.negation c).Says (.not e) := by
  have htext : (Condition.negation c).text = "NOT " ++ enclose c.text := not_enclosed c.text
  rw [Says, htext]
  exact h.not_enclose

theorem Says.negateIf {c : Condition} {e : Expr} (h : c.Says e) (negate : Bool) :
    (Condition.negateIf negate c).Says (.negateIf negate e) := by
  cases negate with
  | false => exact h
  | true => exact h.negation

/-! ### Lists -/

theorem readAs_placeholders {vs : List Value} (hne : vs ≠ []) :
    ReadAs (Query.placeholders vs.length) vs
      ([Symbol.comma].intercalate (vs.map fun v => [.operand (.value v)])) := by
  have hlist : ReadAs (String.intercalate ", " (vs.map fun _ => "?")) (vs.flatMap fun v => [v])
      ([Symbol.comma].intercalate (vs.map fun v => [.operand (.value v)])) :=
    .intercalate separates_comma hne fun v _ => .mark v
  rw [List.map_const', List.flatMap_singleton'] at hlist
  exact hlist

theorem operands?_intercalate {vs : List Value} (hne : vs ≠ []) :
    operands? ([Symbol.comma].intercalate (vs.map fun v => [.operand (.value v)]))
      = some (vs.map .value) := by
  induction vs with
  | nil => exact absurd rfl hne
  | cons v vs ih =>
    cases vs with
    | nil => rfl
    | cons w vs =>
      have hrest := ih (List.cons_ne_nil w vs)
      rw [List.map_cons] at hrest
      rw [List.map_cons, List.map_cons, List.intercalate_cons_cons, List.append_assoc,
        List.singleton_append, List.singleton_append, operands?, hrest]
      rfl

theorem readAs_values {vs : List Value} (hne : vs ≠ []) :
    ReadAs (enclose (Query.placeholders vs.length)) vs [.operands (vs.map .value)] := by
  refine (readAs_placeholders hne).enclose ?_
  rw [unit?, operands?_intercalate hne]
  rfl

theorem readAs_oneOf {column : String} (hcolumn : FreeName column) {vs : List Value}
    (hne : vs ≠ []) :
    ReadAs (oneOf column vs).text vs
      [.operand (.name column), .keyword .in_, .operands (vs.map .value)] := by
  have htext : (oneOf column vs).text
      = column ++ " " ++ ("IN" ++ " " ++ enclose (Query.placeholders vs.length)) := by
    rw [text, show " IN (" = " " ++ ("IN" ++ " " ++ "(") from rfl, enclose]
    simp only [String.append_assoc]
  have hin : ReadAs "IN" [] [.keyword .in_] := .word (by decide)
  rw [htext]
  exact .append separates_blank hcolumn.readAs
    (.append separates_blank hin (readAs_values hne))

theorem says_oneOf {column : String} (hcolumn : FreeName column) {vs : List Value}
    (hne : vs ≠ []) : (oneOf column vs).Says (.member (.name column) (vs.map .value)) :=
  ⟨_, readAs_oneOf hcolumn hne, rfl, rfl⟩

theorem says_noneOf {column : String} (hcolumn : FreeName column) {vs : List Value}
    (hne : vs ≠ []) : (noneOf column vs).Says (.noMember (.name column) (vs.map .value)) := by
  have htext : (noneOf column vs).text
      = column ++ " " ++ ("NOT" ++ " " ++
          ("IN" ++ " " ++ enclose (Query.placeholders vs.length))) := by
    rw [text, show " NOT IN (" = " " ++ ("NOT" ++ " " ++ ("IN" ++ " " ++ "(")) from rfl, enclose]
    simp only [String.append_assoc]
  have hnot : ReadAs "NOT" [] [.keyword .not] := .word (by decide)
  have hin : ReadAs "IN" [] [.keyword .in_] := .word (by decide)
  have hread := ReadAs.append separates_blank hcolumn.readAs
    (.append separates_blank hnot (.append separates_blank hin (readAs_values hne)))
  rw [← htext] at hread
  exact ⟨_, hread, rfl, rfl⟩

/-! ### Constants -/

def constant (b : Bool) : Expr :=
  .compare (.value (.int 1)) .equal (.value (.int (if b then 1 else 0)))

theorem truth_constant (b : Bool) (db : Database) (row : Record) :
    (constant b).truth db row = .ofBool b := by
  have horder : ∀ b : Bool, accepts .equal (order (.int 1) (.int (if b then 1 else 0))) = b := by
    decide +kernel
  rw [constant, Expr.truth, Operand.cell, Operand.cell, db.compare_untyped _ rfl rfl, horder]

theorem says_ofEmptySet (negate : Bool) : (ofEmptySet negate).Says (constant negate) := by
  refine ⟨[.operand (.value (.int 1)), .comparison .equal,
    .operand (.value (.int (if negate then 1 else 0)))], ?_, rfl, rfl⟩
  rintro ⟨level, around, values⟩ hr
  cases negate with
  | false =>
    refine ⟨[.word ['1'], .sign ['='], .word ['0']], ?_, rfl⟩
    cases level with
    | nil => rfl
    | cons l ls => cases l <;> first | rfl | cases hr
  | true =>
    refine ⟨[.word ['1'], .sign ['='], .word ['1']], ?_, rfl⟩
    cases level with
    | nil => rfl
    | cons l ls => cases l <;> first | rfl | cases hr

end Condition

/-! ### Subqueries -/

namespace Sql

def Source.text : Source → String
  | table s => s
  | items column => "json_each" ++ enclose column

def Source.Free : Source → Prop
  | table s => FreeName s
  | items column => FreeName column

theorem Source.Free.readAs_select {source : Source} (h : source.Free) {rowName cond : String}
    (hrow : FreeName rowName) {ps : List Value} {ss : List Symbol} {e : Expr}
    (hcond : ReadAs cond ps ss) (he : expr? ss = some e) :
    ReadAs (enclose ("SELECT 1 FROM " ++ source.text ++ " " ++ rowName ++ " WHERE " ++ cond)) ps
      [.query source rowName e] := by
  have htext : "SELECT 1 FROM " ++ source.text ++ " " ++ rowName ++ " WHERE " ++ cond
      = "SELECT" ++ " " ++ ("1" ++ " " ++ ("FROM" ++ " " ++
          (source.text ++ " " ++ (rowName ++ " " ++ ("WHERE" ++ " " ++ cond))))) := by
    rw [show "SELECT 1 FROM " = "SELECT" ++ " " ++ ("1" ++ " " ++ ("FROM" ++ " ")) from rfl,
      show " WHERE " = " " ++ ("WHERE" ++ " ") from rfl]
    simp only [String.append_assoc]
  have hselect : ReadAs "SELECT" [] [.keyword .select] := .word (by decide)
  have hone : ReadAs "1" [] [.operand (.value (.int 1))] := .word (by decide)
  have hfrom : ReadAs "FROM" [] [.keyword .from_] := .word (by decide)
  have hwhere : ReadAs "WHERE" [] [.keyword .where_] := .word (by decide)
  have htail := ReadAs.append separates_blank hrow.readAs (.append separates_blank hwhere hcond)
  rw [htext]
  cases source with
  | table s =>
    refine (ReadAs.append separates_blank hselect (.append separates_blank hone
      (.append separates_blank hfrom (.append separates_blank (FreeName.readAs h) htail)))).enclose ?_
    show (((expr? ss).map (Symbol.query (.table s) rowName)) <|> _) = _
    rw [he]
    rfl
  | items column =>
    have hcolumn : ReadAs (Source.items column).text [] _ :=
      .call (f := "json_each") (by decide) (FreeName.readAs h) rfl
    refine (ReadAs.append separates_blank hselect (.append separates_blank hone
      (.append separates_blank hfrom (.append separates_blank hcolumn htail)))).enclose ?_
    show (((expr? ss).map (Symbol.query (.items column) rowName)) <|> _) = _
    rw [he]
    rfl

theorem expr?_or {ss ts : List Symbol} (hss : ∀ s ∈ ss, s.isKeyword .or = false) {e f : Expr}
    (he : term? ss = some e) (hf : expr? ts = some f) :
    expr? (ss ++ .keyword .or :: ts) = some (.or e f) := by
  obtain ⟨es, hes, hchain⟩ := Option.bind_eq_some_iff.1 hf
  rw [expr?, List.splitOnP_append_cons_of_forall_mem hss _ rfl, List.mapM_cons, he, hes]
  cases es with
  | nil => cases hchain
  | cons g es =>
    show (chain .or (g :: es)).map (Expr.or e) = _
    rw [hchain]
    rfl

end Sql

namespace Subquery

/-- A subquery whose tables and columns have names. -/
def Named : Subquery → Prop
  | linked rows => FreeName rows.table ∧ Name rows.owner ∧ Name rows.tableAlias ∧ Name rows.key
  | linkedTo rows target ids =>
    FreeName rows.table ∧ Name rows.owner ∧ Name rows.tableAlias ∧ Name rows.key ∧ Name target ∧
      ids ≠ []
  | pathIs source _ => FreeName source
  | pathUnder source paths => FreeName source ∧ paths ≠ []

def underSymbols (p : IdPath) : List Symbol :=
  [.operand (.name "je.value"), .keyword .like, .operand (.value (.text (p.stem ++ "%"))),
    .keyword .or, .operand (.name "je.value"), .comparison .equal,
    .operand (.value (.text p.encode))]

theorem freeName_value : FreeName "je.value" := ⟨by decide, rfl⟩

theorem readAs_under (p : IdPath) :
    ReadAs "je.value LIKE ? OR je.value = ?" [.text (p.stem ++ "%"), .text p.encode]
      (underSymbols p) := by
  have hlike : ReadAs "LIKE" [] [.keyword .like] := .word (by decide)
  have hpattern := ReadAs.append separates_blank freeName_value.readAs
    (.append separates_blank hlike (.mark (.text (p.stem ++ "%"))))
  have hequal := Condition.readAs_compare freeName_value .equal (.text p.encode)
  have hread := ReadAs.append separates_or hpattern hequal
  exact hread

theorem exists_expr?_under {paths : List IdPath} (hne : paths ≠ []) :
    ∃ e, expr? ([Symbol.keyword .or].intercalate (paths.map underSymbols)) = some e := by
  induction paths with
  | nil => exact absurd rfl hne
  | cons p paths ih =>
    cases paths with
    | nil => exact ⟨_, rfl⟩
    | cons q paths =>
      obtain ⟨e, he⟩ := ih (List.cons_ne_nil q paths)
      have hequalOr : ∀ s ∈ ([.operand (.name "je.value"), .comparison .equal,
          .operand (.value (.text p.encode))] : List Symbol), s.isKeyword .or = false := by
        simp [Symbol.isKeyword]
      have hlikeOr : ∀ s ∈ ([.operand (.name "je.value"), .keyword .like,
          .operand (.value (.text (p.stem ++ "%")))] : List Symbol), s.isKeyword .or = false := by
        simp [Symbol.isKeyword]
      have hequal := expr?_or hequalOr rfl he
      have hlike := expr?_or hlikeOr rfl hequal
      exact ⟨_, hlike⟩

/-- A subquery is read as one, with all its conditions inside. -/
theorem Named.readAs {s : Subquery} (h : s.Named) :
    ∃ source rowName e,
      ReadAs s.text s.parameters [.keyword .exists_, .query source rowName e] := by
  have hexists : ReadAs "EXISTS" [] [.keyword .exists_] := .word (by decide)
  have hlt : FreeName "lt" := ⟨by decide, rfl⟩
  have hje : FreeName "je" := ⟨by decide, rfl⟩
  have hltName : Name "lt" := by decide
  -- the text of every kind is an `EXISTS` in front of a source, a name for the row and a condition
  have hall : ∀ (source : Source) (rowName cond : String) (ss : List Symbol) (e : Expr),
      source.Free → FreeName rowName → ReadAs cond s.parameters ss → expr? ss = some e →
      s.text = "EXISTS" ++ " " ++
        enclose ("SELECT 1 FROM " ++ source.text ++ " " ++ rowName ++ " WHERE " ++ cond) →
      ReadAs s.text s.parameters [.keyword .exists_, .query source rowName e] := by
    intro source rowName cond ss e hsource hrow hcond he htext
    rw [htext]
    exact .append separates_blank hexists (hsource.readAs_select hrow hcond he)
  cases s with
  | linked rows =>
    obtain ⟨htable, howner, halias, hkey⟩ := h
    have hcond := ReadAs.append separates_blank (FreeName.qualify hltName howner).readAs
      (.append separates_blank (.sign .equal) (FreeName.qualify halias hkey).readAs)
    refine ⟨.table rows.table, "lt", _, hall _ _ _ _ _ htable hlt hcond rfl ?_⟩
    simp [text_linked, enclose, Source.text, Comparison.sign, ← String.toList_inj]
  | linkedTo rows target ids =>
    obtain ⟨htable, howner, halias, hkey, htarget, hne⟩ := h
    have hequal := ReadAs.append separates_blank (FreeName.qualify hltName howner).readAs
      (.append separates_blank (.sign .equal) (FreeName.qualify halias hkey).readAs)
    have hids : ids.map Value.int ≠ [] := by simpa using hne
    have hmember := Condition.readAs_oneOf (FreeName.qualify hltName htarget) hids
    refine ⟨.table rows.table, "lt", _, hall _ _ _ _ _ htable hlt
      (.append separates_and hequal hmember) rfl ?_⟩
    simp [text_linkedTo, enclose, Source.text, Condition.text, Comparison.sign,
      ← String.toList_inj]
  | pathIs source path =>
    refine ⟨.items source, "je", _, hall _ _ _ _ _ h hje
      (Condition.readAs_compare freeName_value .equal (.text path.encode)) rfl ?_⟩
    simp [text_pathIs, enclose, Source.text, Condition.text, Comparison.sign, ← String.toList_inj]
  | pathUnder source paths =>
    obtain ⟨hsource, hne⟩ := h
    obtain ⟨e, he⟩ := exists_expr?_under hne
    have hcond := ReadAs.intercalate separates_or hne fun p _ => readAs_under p
    refine ⟨.items source, "je", e, hall _ _ _ _ _ hsource hje hcond he ?_⟩
    simp [text_pathUnder, enclose, Source.text, ← String.toList_inj]

theorem says_subquery {s : Subquery} (h : s.Named) :
    ∃ e, ∀ negate, (Condition.ofSubquery negate s).Says (.negateIf negate e) := by
  obtain ⟨source, rowName, e, hread⟩ := h.readAs
  refine ⟨.exists_ source rowName e, ?_⟩
  intro negate
  cases negate with
  | false => exact ⟨_, hread, rfl, rfl⟩
  | true =>
    exact ⟨_, hread.not, rfl, rfl⟩

end Subquery

end CatalogSearch
