import CatalogSearch.Proofs.Sql.Meaning
import Mathlib.Data.Set.Finite.Basic

/-!
# What the operators select

The fragment of a criterion, read as SQL, and the rows that it selects. `ANY_OF` is meant to find
what `EQ` finds with one of the values, and `FRAGMENT` the texts that hold a part. Each has an
exception. `EQ` with null asks for a missing value, but a null among the values of `ANY_OF` is
compared, and a comparison with null is true of nothing (`anyOf_agrees_iff`). The value of `FRAGMENT`
goes into the pattern as it is, where `%` and `_` do not stand for themselves
(`contains_exact_iff`).
-/

namespace CatalogSearch

open Sql

/-- What the condition of a fragment says of a row, if it can be read. -/
def Fragment.truth? (f : Fragment) (db : Database) (row : Record) : Option Truth :=
  (read f.condition.text f.condition.parameters).map fun e => e.truth db row

namespace Criterion

def truth? (c : Criterion) (column : String) (db : Database) (row : Record) : Option Truth :=
  match c.plain column with
  | .ok ⟨_, some f⟩ => f.truth? db row
  | _ => none

/-- Whether a row is selected: a criterion that is unknown of it does not select it. -/
def Selects (c : Criterion) (column : String) (db : Database) (row : Record) : Prop :=
  c.truth? column db row = some .yes

instance (c : Criterion) (column : String) (db : Database) (row : Record) :
    Decidable (c.Selects column db row) :=
  inferInstanceAs (Decidable (_ = _))

theorem truth?_of_meaning {c : Criterion} {column : String} {condition : Condition} {e : Expr}
    (hplain : c.plain column = .ok ⟨[], some ⟨condition, none⟩⟩) (hmeans : condition.Says e)
    (db : Database) (row : Record) : c.truth? column db row = some (e.truth db row) := by
  have hread : read condition.text condition.parameters = some e := hmeans.read_eq
  simp only [truth?, hplain, Fragment.truth?, hread, Option.map_some]

end Criterion

/-! ### Equality -/

namespace Sql.Database

variable (db : Database) (cell : Cell)

def equals : Value → Truth
  | .null => .ofBool (isMissing cell.value)
  | v => db.compare .equal cell ⟨v.bound, none⟩

theorem equals_of_ne_null {v : Value} (hv : v ≠ .null) :
    db.equals cell v = db.compare .equal cell ⟨v.bound, none⟩ := by
  cases v <;> first | exact absurd rfl hv | rfl

/-- A comparison with null is true of nothing, and neither is its negation. -/
theorem compare_null (comparison : Comparison) :
    db.compare comparison cell ⟨.null, none⟩ = .unknown := by
  rw [compare, show isMissing .null = true from rfl, Bool.or_true, if_pos rfl]

theorem compare_bound_eq_iff {t : Truth} (ht : t ≠ .unknown) (v : Value) :
    db.compare .equal cell ⟨v.bound, none⟩ = t ↔ v ≠ .null ∧ db.equals cell v = t := by
  by_cases hnull : v = .null
  · subst hnull
    simp [Value.bound, compare_null, ht.symm]
  · rw [equals_of_ne_null db cell hnull]
    exact (and_iff_right hnull).symm

end Sql.Database

namespace Criterion

variable {column : String} (hcolumn : FreeName column) (field : String)

include hcolumn

theorem truth?_equal {v : Value} (hv : v.isScalar = true) (negate : Bool) (db : Database)
    (row : Record) :
    (mk field .equal v negate).truth? column db row
      = some ((db.equals (row column) v).negateIf negate) := by
  have hequal : ∀ w : Value, w.isScalar = true → w ≠ .null →
      (mk field .equal w negate).truth? column db row
        = some ((db.compare .equal (row column) ⟨w.bound, none⟩).negateIf negate) := by
    intro w hw hnull
    have hplain : (mk field .equal w negate).plain column
        = .ok ⟨[], some ⟨.negateIf negate (.compare column .equal w.bound), none⟩⟩ := by
      cases w <;> first | exact absurd rfl hnull | rfl | cases hw
    rw [truth?_of_meaning hplain ((Condition.says_compare hcolumn _ _).negateIf negate),
      Expr.truth_negateIf]
    rfl
  cases v with
  | null =>
    have hplain : (mk field .equal .null negate).plain column
        = .ok ⟨[], some ⟨.negateIf negate (.isNull column), none⟩⟩ := rfl
    rw [truth?_of_meaning hplain ((Condition.says_isNull hcolumn).negateIf negate),
      Expr.truth_negateIf]
    rfl
  | bool b => exact hequal _ rfl (by simp)
  | int i => exact hequal _ rfl (by simp)
  | float x => exact hequal _ rfl (by simp)
  | text t => exact hequal _ rfl (by simp)
  | list items => cases hv
  | object fields => cases hv

theorem selects_equal_iff {v : Value} (hv : v.isScalar = true) (db : Database) (row : Record) :
    (mk field .equal v false).Selects column db row ↔ db.equals (row column) v = .yes := by
  rw [Selects, truth?_equal hcolumn field hv, Option.some_inj]
  rfl

theorem selects_not_equal_iff {v : Value} (hv : v.isScalar = true) (db : Database)
    (row : Record) :
    (mk field .equal v true).Selects column db row ↔ db.equals (row column) v = .no := by
  rw [Selects, truth?_equal hcolumn field hv, Option.some_inj]
  exact Truth.not_eq_yes_iff

theorem truth?_anyOf {vs : List Value} (hne : vs ≠ []) (hvs : ∀ v ∈ vs, v.isScalar = true)
    (negate : Bool) (db : Database) (row : Record) :
    (mk field .anyOf (.list vs) negate).truth? column db row
      = some ((Truth.any (vs.map fun v => db.compare .equal (row column) ⟨v.bound, none⟩)).negateIf
          negate) := by
  have hplain : (mk field .anyOf (.list vs) negate).plain column
      = .ok ⟨[], some ⟨if negate then .noneOf column (vs.map Value.bound)
          else .oneOf column (vs.map Value.bound), none⟩⟩ := by
    cases vs with
    | nil => exact absurd rfl hne
    | cons v vs =>
      have hall : (v :: vs).all Value.isScalar = true := List.all_eq_true.2 hvs
      simp only [plain, plainCondition, Operator.fits, hall, if_true]
      rfl
  have hbound : vs.map Value.bound ≠ [] := by simpa using hne
  have hmember : (Expr.member (.name column) ((vs.map Value.bound).map .value)).truth db row
      = Truth.any (vs.map fun v => db.compare .equal (row column) ⟨v.bound, none⟩) := by
    rw [Expr.truth, List.map_map, List.map_map]
    rfl
  cases negate with
  | false =>
    rw [truth?_of_meaning hplain (Condition.says_oneOf hcolumn hbound), hmember]
    rfl
  | true =>
    rw [truth?_of_meaning hplain (Condition.says_noneOf hcolumn hbound), Expr.truth_noMember, hmember]
    rfl

/-- `ANY_OF` selects what `EQ` selects with one of the values that is not null. -/
theorem selects_anyOf_iff {vs : List Value} (hne : vs ≠ []) (hvs : ∀ v ∈ vs, v.isScalar = true)
    (db : Database) (row : Record) :
    (mk field .anyOf (.list vs) false).Selects column db row ↔
      ∃ v ∈ vs, v ≠ .null ∧ (mk field .equal v false).Selects column db row := by
  rw [Selects, truth?_anyOf hcolumn field hne hvs, Option.some_inj, Truth.negateIf,
    if_neg Bool.false_ne_true, Truth.any_eq_yes_iff, List.mem_map]
  refine exists_congr fun v => and_congr_right fun hv => ?_
  rw [db.compare_bound_eq_iff _ (by decide), selects_equal_iff hcolumn field (hvs v hv)]

/-- A negated `ANY_OF` selects what every negated `EQ` selects, and with a null among the values it
selects nothing. -/
theorem selects_not_anyOf_iff {vs : List Value} (hne : vs ≠ [])
    (hvs : ∀ v ∈ vs, v.isScalar = true) (db : Database) (row : Record) :
    (mk field .anyOf (.list vs) true).Selects column db row ↔
      .null ∉ vs ∧ ∀ v ∈ vs, (mk field .equal v true).Selects column db row := by
  have hmember : ∀ v ∈ vs, ((db.compare .equal (row column) ⟨v.bound, none⟩).not = .yes ↔
      v ≠ .null ∧ (mk field .equal v true).Selects column db row) := by
    intro v hv
    rw [Truth.not_eq_yes_iff, db.compare_bound_eq_iff _ (by decide),
      selects_not_equal_iff hcolumn field (hvs v hv)]
  rw [Selects, truth?_anyOf hcolumn field hne hvs, Option.some_inj, Truth.negateIf, if_pos rfl,
    Truth.not_any, List.map_map, Truth.all_eq_yes_iff, List.forall_mem_map]
  constructor
  · intro h
    exact ⟨fun hnull => ((hmember _ hnull).1 (h _ hnull)).1 rfl,
      fun v hv => ((hmember v hv).1 (h v hv)).2⟩
  · rintro ⟨hnull, h⟩ v hv
    exact (hmember v hv).2 ⟨fun heq => hnull (heq ▸ hv), h v hv⟩

end Criterion

/-! ### Some `EQ` -/

theorem exists_text_notMem (vs : List Value) : ∃ t : Text, .text t ∉ vs := by
  have hinj : Function.Injective fun n : Nat => Value.text ⟨List.replicate n (.char 'x')⟩ := by
    intro m n h
    have hpoints := congrArg Text.points (Value.text.inj h)
    simpa using congrArg List.length hpoints
  obtain ⟨v, ⟨n, rfl⟩, hv⟩ :=
    (Set.infinite_range_of_injective hinj).exists_notMem_finite vs.finite_toSet
  exact ⟨_, hv⟩

theorem Sql.Database.equals_text_eq_no (db : Database) {t : Text} {v : Value}
    (hv : v.isScalar = true) (hnan : v ≠ .float .nan) (hne : v ≠ .text t) :
    db.equals ⟨.text t, none⟩ v = .no := by
  have hcompare : ∀ w : Value, isMissing w = false → order (.text t) w ≠ .eq →
      db.compare .equal ⟨.text t, none⟩ ⟨w, none⟩ = .no := by
    intro w hmissing horder
    have haccepts : accepts .equal (order (.text t) w) = false := beq_eq_false_iff_ne.2 horder
    rw [db.compare_untyped _ rfl hmissing, haccepts]
    rfl
  cases v with
  | null => rfl
  | bool b => exact hcompare _ rfl (by simp [order, Value.bound, Value.place?])
  | int i => exact hcompare _ rfl (by simp [order, Value.bound, Value.place?])
  | float x =>
    have hmissing : isMissing (.float x) = false := by
      cases x <;> first | exact absurd rfl hnan | rfl
    exact hcompare _ hmissing (by simp [order, Value.bound, Value.place?])
  | text s =>
    have hst : t ≠ s := fun heq => hne (by rw [heq])
    have horder : order (.text t) (.text s) ≠ .eq := by
      simp only [order, if_neg hst]
      split <;> simp
    exact hcompare _ rfl horder
  | list items => cases hv
  | object fields => cases hv

namespace Criterion

/-- Whatever the values are, some row differs from all of them. -/
theorem exists_selects_not_equal {column : String} (hcolumn : FreeName column) (field : String)
    {vs : List Value} (hvs : ∀ v ∈ vs, v.isScalar = true ∧ v ≠ .float .nan) (db : Database) :
    ∃ row, ∀ v ∈ vs, (mk field .equal v true).Selects column db row := by
  obtain ⟨t, ht⟩ := exists_text_notMem vs
  refine ⟨fun _ => ⟨.text t, none⟩, ?_⟩
  intro v hv
  have htext : v ≠ .text t := fun heq => ht (heq ▸ hv)
  rw [selects_not_equal_iff hcolumn field (hvs v hv).1]
  exact db.equals_text_eq_no (hvs v hv).1 (hvs v hv).2 htext

/-- `ANY_OF` is some `EQ`, and its negation is every negated `EQ`, exactly if null is not among the
values. -/
theorem anyOf_agrees_iff {column : String} (hcolumn : FreeName column) (field : String)
    {vs : List Value} (hne : vs ≠ []) (hvs : ∀ v ∈ vs, v.isScalar = true ∧ v ≠ .float .nan)
    (db : Database) :
    (∀ negate row,
      ((mk field .anyOf (.list vs) negate).truth? column db row).isSome = true ∧
      ∀ v ∈ vs, ((mk field .equal v negate).truth? column db row).isSome = true) ∧
    (∀ row, (mk field .anyOf (.list vs) false).Selects column db row ↔
      ∃ v ∈ vs, v ≠ .null ∧ (mk field .equal v false).Selects column db row) ∧
    (∀ row, (mk field .anyOf (.list vs) true).Selects column db row ↔
      .null ∉ vs ∧ ∀ v ∈ vs, (mk field .equal v true).Selects column db row) ∧
    ((∀ row, (mk field .anyOf (.list vs) false).Selects column db row ↔
      ∃ v ∈ vs, (mk field .equal v false).Selects column db row) ↔ .null ∉ vs) ∧
    ((∀ row, (mk field .anyOf (.list vs) true).Selects column db row ↔
      ∀ v ∈ vs, (mk field .equal v true).Selects column db row) ↔ .null ∉ vs) := by
  have hscalar : ∀ v ∈ vs, v.isScalar = true := fun v hv => (hvs v hv).1
  have hany := selects_anyOf_iff hcolumn field hne hscalar db
  have hnone := selects_not_anyOf_iff hcolumn field hne hscalar db
  refine ⟨?_, hany, hnone, ?_, ?_⟩
  · intro negate row
    rw [truth?_anyOf hcolumn field hne hscalar]
    refine ⟨rfl, fun v hv => ?_⟩
    rw [truth?_equal hcolumn field (hscalar v hv)]
    rfl
  · constructor
    · -- `EQ` with null selects a row that lacks the column, and no comparison does
      intro h hnull
      have hlacking : (mk field .equal .null false).Selects column db fun _ => ⟨.null, none⟩ :=
        (selects_equal_iff hcolumn field rfl db _).2 rfl
      obtain ⟨v, hv, hvnull, hselects⟩ := (hany _).1 ((h _).2 ⟨.null, hnull, hlacking⟩)
      rw [selects_equal_iff hcolumn field (hscalar v hv),
        Sql.Database.equals_of_ne_null _ _ hvnull] at hselects
      cases hselects
    · intro hnull row
      rw [hany]
      refine exists_congr fun v => and_congr_right fun hv => and_iff_right ?_
      exact fun heq => hnull (heq ▸ hv)
  · constructor
    · intro h hnull
      obtain ⟨row, hall⟩ := exists_selects_not_equal hcolumn field hvs db
      exact ((hnone row).1 ((h row).2 hall)).1 hnull
    · intro hnull row
      rw [hnone]
      exact and_iff_right hnull

theorem anyOf_agrees_mixed :
    FreeName "d.note" ∧ [Value.int 1, .text "a"] ≠ [] ∧
    (∀ v ∈ [Value.int 1, .text "a"], v.isScalar = true ∧ v ≠ .float .nan) ∧
    Value.null ∉ [Value.int 1, .text "a"] ∧
    (∀ row, (mk "note" .anyOf (.list [.int 1, .text "a"]) false).Selects "d.note" .bare row ↔
      ∃ v ∈ [Value.int 1, .text "a"], (mk "note" .equal v false).Selects "d.note" .bare row) ∧
    (∀ row, (mk "note" .anyOf (.list [.int 1, .text "a"]) true).Selects "d.note" .bare row ↔
      ∀ v ∈ [Value.int 1, .text "a"],
        (mk "note" .equal v true).Selects "d.note" .bare row) := by
  have hcolumn : FreeName "d.note" := ⟨by decide, rfl⟩
  have hvs : ∀ v ∈ [Value.int 1, .text "a"], v.isScalar = true ∧ v ≠ .float .nan := by
    simp [Value.isScalar]
  have hnull : Value.null ∉ [Value.int 1, .text "a"] := by simp
  obtain ⟨-, -, -, hany, hnone⟩ :=
    anyOf_agrees_iff hcolumn "note" (List.cons_ne_nil _ _) hvs .bare
  exact ⟨hcolumn, List.cons_ne_nil _ _, hvs, hnull, hany.2 hnull, hnone.2 hnull⟩

/-- A row without the column is selected by `EQ` with null and not by `ANY_OF` with null alone; a row
that holds 2 is selected by the negated `EQ` with 1 and with null, and not by the negated `ANY_OF`
with both. -/
theorem anyOf_null_differs :
    ¬((mk "note" .anyOf (.list [.null]) false).Selects "d.note" .bare (fun _ => ⟨.null, none⟩) ↔
      ∃ v ∈ [Value.null],
        (mk "note" .equal v false).Selects "d.note" .bare fun _ => ⟨.null, none⟩) ∧
    ¬((mk "note" .anyOf (.list [.int 1, .null]) true).Selects "d.note" .bare
        (fun _ => ⟨.int 2, none⟩) ↔
      ∀ v ∈ [Value.int 1, .null],
        (mk "note" .equal v true).Selects "d.note" .bare fun _ => ⟨.int 2, none⟩) := by
  decide +kernel

/-! ### Part of a text -/

theorem truth?_contains {column : String} (hcolumn : FreeName column) (field : String)
    (part : Text) (negate : Bool) (db : Database) (row : Record) {t : Text}
    (ht : (row column).value = .text t) :
    (mk field .contains (.text part) negate).truth? column db row
      = some ((Truth.ofBool (like t (enclosePattern part))).negateIf negate) := by
  have hplain : (mk field .contains (.text part) negate).plain column
      = .ok ⟨[], some ⟨.negateIf negate (.contains column part), none⟩⟩ := rfl
  have hlike : db.like (row column) ⟨.text ("%" ++ part ++ "%"), none⟩
      = .ofBool (like t (enclosePattern part)) := by
    rw [Database.like, ht]
    rfl
  rw [truth?_of_meaning hplain ((Condition.says_contains hcolumn part).negateIf negate),
    Expr.truth_negateIf, Expr.truth, Operand.cell, Operand.cell, hlike]

theorem selects_contains_iff {column : String} (hcolumn : FreeName column) (field : String)
    (part : Text) (db : Database) (row : Record) {t : Text} (ht : (row column).value = .text t) :
    (mk field .contains (.text part) false).Selects column db row ↔
      like t (enclosePattern part) = true := by
  rw [Selects, truth?_contains hcolumn field part false db row ht, Option.some_inj]
  exact Truth.ofBool_eq_yes_iff

theorem selects_not_contains_iff {column : String} (hcolumn : FreeName column) (field : String)
    (part : Text) (db : Database) (row : Record) {t : Text} (ht : (row column).value = .text t) :
    (mk field .contains (.text part) true).Selects column db row ↔
      ¬like t (enclosePattern part) = true := by
  rw [Selects, truth?_contains hcolumn field part true db row ht, Option.some_inj,
    Bool.not_eq_true, ← Truth.ofBool_eq_no_iff]
  exact Truth.not_eq_yes_iff

/-- `FRAGMENT` finds every text with the part, and no other text exactly if the part has no `%`
and no `_`. The same goes for its negation. -/
theorem contains_exact_iff {column : String} (hcolumn : FreeName column) (field : String)
    (part : Text) (db : Database) :
    (∀ negate row t, (row column).value = .text t →
      ((mk field .contains (.text part) negate).truth? column db row).isSome = true) ∧
    (∀ row t, (row column).value = .text t → OccursIn part t →
      (mk field .contains (.text part) false).Selects column db row ∧
      ¬(mk field .contains (.text part) true).Selects column db row) ∧
    ((∀ row t, (row column).value = .text t →
        ((mk field .contains (.text part) false).Selects column db row ↔ OccursIn part t)) ↔
      ∀ p ∈ part.points, isWildcard p = false) ∧
    ((∀ row t, (row column).value = .text t →
        ((mk field .contains (.text part) true).Selects column db row ↔ ¬OccursIn part t)) ↔
      ∀ p ∈ part.points, isWildcard p = false) := by
  refine ⟨?_, ?_, ?_, ?_⟩
  · intro negate row t ht
    rw [truth?_contains hcolumn field part negate db row ht]
    rfl
  · intro row t ht hoccurs
    rw [selects_contains_iff hcolumn field part db row ht,
      selects_not_contains_iff hcolumn field part db row ht, not_not]
    exact ⟨like_enclosed_of_occursIn hoccurs, like_enclosed_of_occursIn hoccurs⟩
  · rw [← like_enclosePattern_exact_iff]
    constructor
    · intro h t
      rw [← selects_contains_iff hcolumn field part db (fun _ => ⟨.text t, none⟩) rfl]
      exact h _ t rfl
    · intro h row t ht
      rw [selects_contains_iff hcolumn field part db row ht]
      exact h t
  · rw [← like_enclosePattern_exact_iff]
    constructor
    · intro h t
      rw [← not_iff_not,
        ← selects_not_contains_iff hcolumn field part db (fun _ => ⟨.text t, none⟩) rfl]
      exact h _ t rfl
    · intro h row t ht
      rw [selects_not_contains_iff hcolumn field part db row ht]
      exact not_congr (h t)

theorem contains_exact_letters :
    FreeName "d.title" ∧ (∀ p ∈ (Text.ofString "map").points, isWildcard p = false) ∧
    (∀ row t, (row "d.title").value = .text t →
      ((mk "title" .contains (.text "map") false).Selects "d.title" .bare row ↔
        OccursIn "map" t)) ∧
    (∀ row t, (row "d.title").value = .text t →
      ((mk "title" .contains (.text "map") true).Selects "d.title" .bare row ↔
        ¬OccursIn "map" t)) := by
  have hcolumn : FreeName "d.title" := ⟨by decide, rfl⟩
  have hpart : ∀ p ∈ (Text.ofString "map").points, isWildcard p = false := by decide
  obtain ⟨-, -, hplain, hnegated⟩ := contains_exact_iff hcolumn "title" "map" .bare
  exact ⟨hcolumn, hpart, hplain.2 hpart, hnegated.2 hpart⟩

/-- A text that begins with 500 is found by the part `50%`, which it does not have. -/
theorem contains_percent_differs :
    ¬((mk "title" .contains (.text "50%") false).Selects "d.title" .bare
        (fun _ => ⟨.text "500 maps", none⟩) ↔ OccursIn "50%" "500 maps") ∧
    ¬((mk "title" .contains (.text "50%") true).Selects "d.title" .bare
        (fun _ => ⟨.text "500 maps", none⟩) ↔ ¬OccursIn "50%" "500 maps") := by
  decide +kernel

end Criterion

end CatalogSearch
