import CatalogSearch.Proofs.Compilation
import Mathlib.Algebra.Ring.Nat

/-!
# Counting placeholders

The marks of every text that a search is put together from, up to the fragments: a condition has as
many marks as it has values, whichever of its shapes it takes, and a join has none. `Emits.paired`
is what the plans need of this.
-/

namespace CatalogSearch

open Query

/-! ### Counting marks -/

@[simp] theorem Query.marks_append (s t : String) : marks (s ++ t) = marks s + marks t := by
  rw [marks, String.toList_append, List.count_append, marks, marks]

theorem Query.marks_eq_zero_of_not_mem {s : String} (h : '?' ∉ s.toList) : marks s = 0 :=
  List.count_eq_zero_of_not_mem h

theorem Query.not_mem_of_marks_eq_zero {s : String} (h : marks s = 0) : '?' ∉ s.toList :=
  List.count_eq_zero.1 h

theorem Query.marks_intercalate {sep : String} (hsep : marks sep = 0) (xs : List String) :
    marks (String.intercalate sep xs) = (xs.map marks).sum := by
  induction xs with
  | nil => rfl
  | cons x xs ih =>
    cases xs with
    | nil => simp
    | cons y ys =>
      rw [String.intercalate_cons_cons, marks_append, marks_append, hsep, ih]
      simp

theorem Query.marks_placeholders (n : Nat) : marks (placeholders n) = n := by
  rw [placeholders, marks_intercalate (by rfl), List.map_replicate, List.sum_replicate_nat]
  exact Nat.mul_one n

theorem count_dropWhile {p : Char → Bool} {c : Char} (hc : p c = false) (cs : List Char) :
    (cs.dropWhile p).count c = cs.count c := by
  induction cs with
  | nil => rfl
  | cons d cs ih =>
    by_cases hd : p d = true
    · have hne : d ≠ c := by
        rintro rfl
        rw [hc] at hd
        cases hd
      rw [List.dropWhile_cons_of_pos hd, ih, List.count_cons_of_ne hne]
    · rw [List.dropWhile_cons_of_neg hd]

@[simp] theorem Query.marks_trim (s : String) : marks (Text.trim s) = marks s := by
  rw [marks, Text.trim, String.toList_ofList, Text.stripChars, List.count_reverse,
    count_dropWhile (by decide), List.count_reverse, count_dropWhile (by decide), marks]

theorem marks_of_isIdentifier {s : String} (h : isIdentifier s = true) : marks s = 0 := by
  apply marks_eq_zero_of_not_mem
  intro hmem
  rw [isIdentifier] at h
  split at h
  case h_1 => cases h
  case h_2 c cs hcs =>
    rw [hcs] at hmem
    rw [Bool.and_eq_true, List.all_eq_true] at h
    rcases List.mem_cons.1 hmem with rfl | hmem
    · exact absurd h.1 (by decide)
    · exact absurd (h.2 _ hmem) (by decide)

/-! ### Fragments -/

def Condition.Paired (c : Condition) : Prop := marks c.text = c.parameters.length

/-- A paired condition, and a join without marks. -/
structure Fragment.Paired (f : Fragment) : Prop where
  condition : f.condition.Paired
  join : ∀ j, f.join = some j → marks j = 0

theorem Condition.Paired.negateIf {c : Condition} (h : c.Paired) (negate : Bool) :
    (negateIf negate c).Paired := by
  cases negate with
  | false => exact h
  | true =>
    rw [Condition.Paired] at h
    rw [Condition.negateIf, if_pos rfl, Condition.Paired, text, parameters, marks_append,
      marks_append, h]
    simp [marks]

theorem Condition.paired_ofEmptySet (negate : Bool) : (ofEmptySet negate).Paired := by
  cases negate <;> rfl

theorem Comparison.marks_sign (comparison : Comparison) : marks comparison.sign = 0 := by
  cases comparison <;> rfl

theorem Condition.Tests.paired {column : String} (hcolumn : marks column = 0) {c : Condition}
    (h : Tests column c) : c.Paired := by
  cases h with
  | compare comparison _ =>
    simp only [Condition.Paired, text, parameters, marks_append, hcolumn, comparison.marks_sign]
    simp [marks]
  | isNull =>
    simp only [Condition.Paired, text, parameters, marks_append, hcolumn]
    simp [marks]
  | isNullOrEmpty =>
    simp only [Condition.Paired, text, parameters, marks_append, hcolumn]
    simp [marks]
  | contains part =>
    simp only [Condition.Paired, text, parameters, marks_append, hcolumn]
    simp [marks]

theorem Condition.OnColumn.paired {column : String} (hcolumn : marks column = 0) {c : Condition}
    (h : OnColumn column c) : c.Paired := by
  cases h with
  | test negate h => exact (h.paired hcolumn).negateIf negate
  | oneOf =>
    simp only [Condition.Paired, text, parameters, marks_append, hcolumn, marks_placeholders]
    simp [marks]
  | noneOf =>
    simp only [Condition.Paired, text, parameters, marks_append, hcolumn, marks_placeholders]
    simp [marks]
  | emptySet negate => exact paired_ofEmptySet negate

def HandlerKind.texts : HandlerKind → List String
  | linkedToAny table owner target key _ => [table, owner, target, key]
  | hasLinked table owner key => [table, owner, key]
  | joinedColumn joinClause column => [joinClause, column]
  | storedPaths column => [column]

def HandlerKind.Unmarked (k : HandlerKind) : Prop := ∀ s ∈ k.texts, marks s = 0

/-- Each path that is looked for has two marks, for the paths under it and for itself. -/
theorem marks_pathTests (paths : List IdPath) :
    marks (String.intercalate " OR " (paths.map fun _ => "je.value LIKE ? OR je.value = ?"))
      = 2 * paths.length := by
  rw [marks_intercalate (by rfl), List.map_map]
  induction paths with
  | nil => rfl
  | cons p ps ih =>
    have hone : marks "je.value LIKE ? OR je.value = ?" = 2 := by decide
    rw [List.map_cons, List.sum_cons, ih, Function.comp_apply, hone, List.length_cons]
    omega

theorem length_pathParameters (paths : List IdPath) :
    (paths.flatMap fun p => [Value.text (p.stem ++ "%"), .text p.encode]).length
      = 2 * paths.length := by
  induction paths with
  | nil => rfl
  | cons p ps ih =>
    rw [List.flatMap_cons, List.length_append, ih, List.length_cons, List.length_cons,
      List.length_cons, List.length_nil]
    omega

theorem HandlerKind.Asks.paired {tableAlias : String} (halias : marks tableAlias = 0)
    {k : HandlerKind} (hk : k.Unmarked) {s : Subquery} (h : Asks tableAlias k s) :
    marks s.text = s.parameters.length := by
  cases h with
  | @linkedTo table owner target key strategy ids hne =>
    have htable : marks table = 0 := hk table (by simp [texts])
    have howner : marks owner = 0 := hk owner (by simp [texts])
    have htarget : marks target = 0 := hk target (by simp [texts])
    have hkey : marks key = 0 := hk key (by simp [texts])
    simp only [Subquery.text_linkedTo, Subquery.parameters, marks_append, htable, howner, htarget,
      hkey, halias, marks_placeholders]
    simp [marks]
  | @linked table owner key =>
    have htable : marks table = 0 := hk table (by simp [texts])
    have howner : marks owner = 0 := hk owner (by simp [texts])
    have hkey : marks key = 0 := hk key (by simp [texts])
    simp only [Subquery.text_linked, Subquery.parameters, marks_append, htable, howner, hkey,
      halias]
    simp [marks]
  | @pathIs column path =>
    have hcolumn : marks column = 0 := hk column (by simp [texts])
    simp only [Subquery.text_pathIs, Subquery.parameters, marks_append, hcolumn, halias]
    simp [marks]
  | @pathUnder column paths hne =>
    have hcolumn : marks column = 0 := hk column (by simp [texts])
    simp only [Subquery.text_pathUnder, Subquery.parameters, marks_append, marks_pathTests, hcolumn,
      halias, length_pathParameters]
    simp [marks]

theorem Condition.paired_ofSubquery (negate : Bool) {s : Subquery}
    (h : marks s.text = s.parameters.length) : (ofSubquery negate s).Paired := by
  cases negate with
  | false => exact h
  | true =>
    rw [ofSubquery, if_pos rfl, Condition.Paired, text, parameters, marks_append, h]
    simp [marks]

theorem marks_expand {template tableAlias : String} (htemplate : marks template = 0)
    (halias : marks tableAlias = 0) : marks (Template.expand template tableAlias) = 0 := by
  apply marks_eq_zero_of_not_mem
  rw [Template.expand, String.toList_ofList]
  intro hmem
  rcases Template.mem_expandChars hmem with h | h
  · exact not_mem_of_marks_eq_zero halias h
  · exact not_mem_of_marks_eq_zero htemplate h

theorem HandlerKind.Answers.paired {tableAlias : String} (halias : marks tableAlias = 0)
    {k : HandlerKind} (hk : k.Unmarked) {f : Fragment} (h : Answers tableAlias k f) : f.Paired := by
  cases h with
  | emptySet negate => exact ⟨Condition.paired_ofEmptySet negate, by simp⟩
  | subquery negate h => exact ⟨Condition.paired_ofSubquery negate (h.paired halias hk), by simp⟩
  | @joinedLink table owner target key ids hne =>
    have htable : marks table = 0 := hk table (by simp [texts])
    have howner : marks owner = 0 := hk owner (by simp [texts])
    have htarget : marks target = 0 := hk target (by simp [texts])
    have hkey : marks key = 0 := hk key (by simp [texts])
    constructor
    · simp only [Condition.Paired, Condition.text, Condition.parameters, marks_append, htable,
        htarget, marks_placeholders]
      simp [marks]
    · intro j hj
      cases hj
      unfold linkJoin
      simp only [marks_append, htable, howner, hkey, halias]
      simp [marks]
  | @column joinClause column c hc =>
    have hjoin : marks joinClause = 0 := hk joinClause (by simp [texts])
    have hcolumn : marks column = 0 := hk column (by simp [texts])
    constructor
    · exact hc.paired hcolumn
    · intro j hj
      cases hj
      exact marks_expand hjoin halias

namespace SearchTarget

variable {t : SearchTarget} {r : Registry}

/-- No text that the target is made from has a mark. The fields need no such promise: a client can
name a field only by a plain identifier. -/
structure Unmarked (t : SearchTarget) (r : Registry) : Prop where
  primaryKey : marks t.primaryKey = 0
  joins : ∀ j ∈ t.extraJoins, marks j = 0
  columns : ∀ c ∈ t.extraColumns, marks c = 0
  handlers : ∀ entry ∈ r, entry.2.Unmarked

theorem marks_tableAlias (hr : t.Registers r) : marks t.tableAlias = 0 := by
  rw [tableAlias, mainAlias, marks_append, marks_of_isIdentifier hr.table]
  rfl

theorem marks_keyColumn (hr : t.Registers r) (hmarks : t.Unmarked r) : marks t.keyColumn = 0 := by
  rw [keyColumn]
  split
  case isFalse => exact hmarks.primaryKey
  case isTrue =>
    have htable := not_mem_of_marks_eq_zero (marks_of_isIdentifier hr.table)
    apply marks_eq_zero_of_not_mem
    simp only [guessPrimaryKey, String.toList_append, String.toList_ofList, List.mem_append]
    rintro (h | h)
    · split at h
      · exact htable (List.dropLast_subset _ h)
      · exact htable h
    · exact absurd h (by decide)

theorem Emits.paired (hr : t.Registers r) (hmarks : t.Unmarked r) {field : String} {f : Fragment}
    (h : t.Emits r field f) : f.Paired := by
  have halias := marks_tableAlias hr
  cases h with
  | handled hk h => exact h.paired halias (hmarks.handlers _ hk)
  | listed hidentifier _ h =>
    have hcolumn : marks (t.tableAlias ++ "." ++ field) = 0 := by
      rw [marks_append, marks_append, halias, marks_of_isIdentifier hidentifier]
      rfl
    exact ⟨h.paired hcolumn, by simp⟩
  | bare hidentifier _ _ h => exact ⟨h.paired (marks_of_isIdentifier hidentifier), by simp⟩

end SearchTarget

end CatalogSearch
