import CatalogSearch.Entity.Search
import CatalogSearch.Proofs.Grouping
import CatalogSearch.Proofs.PageCount
import Mathlib.Data.List.Sort

/-!
# Rows with what belongs to them

The rows of a page are completed one by one, each with the rows that the groups hold for its key. A
completed row differs from the row of the page in `Entity.writtenColumns` and nowhere else, and
`Entity.Carries` says what it carries there: documents and notes the related rows as they are,
elements the ids of their parents in ascending order. `Entity.Gains` is both, for one row.
-/

namespace CatalogSearch

theorem forall₂_of_mapM_eq_ok {ε α β : Type} {f : α → Except ε β} {xs : List α} {ys : List β}
    (h : xs.mapM f = .ok ys) : List.Forall₂ (fun x y => f x = .ok y) xs ys := by
  induction xs generalizing ys with
  | nil =>
    cases h
    exact .nil
  | cons x xs ih =>
    obtain ⟨y, zs, hx, hxs, rfl⟩ := exists_of_mapM_cons_eq_ok h
    exact .cons hx (ih hxs)

theorem exists_of_columnValues_cons {column : String} {row : Row} {rows : List Row}
    {vs : List Value} (h : columnValues column (row :: rows) = .ok vs) :
    ∃ v ws, row.get? column = some v ∧ columnValues column rows = .ok ws ∧ vs = v :: ws := by
  obtain ⟨v, ws, hv, hws, rfl⟩ := exists_of_mapM_cons_eq_ok h
  split at hv
  case h_1 w hget =>
    cases hv
    exact ⟨v, ws, hget, hws, rfl⟩
  case h_2 => cases hv

theorem columnValues_eq_ok {column : String} {rows : List Row} {vs : List Value}
    (h : columnValues column rows = .ok vs) : vs = rows.filterMap (·.get? column) := by
  induction rows generalizing vs with
  | nil =>
    cases h
    rfl
  | cons row rows ih =>
    obtain ⟨v, ws, hget, hws, rfl⟩ := exists_of_columnValues_cons h
    rw [List.filterMap_cons, hget, ih hws]

/-! ### Integers in order -/

namespace Value

theorem isBelow_int (i j : Int) : isBelow (int i) (int j) = decide (i < j) := by
  have hunit : (0 : Int) < Place.unitsPerOne := by exact_mod_cast Binary64.unitsPerOne_pos
  have hless : i * (Place.unitsPerOne : Int) < j * Place.unitsPerOne ↔ i < j :=
    Int.mul_lt_mul_right hunit
  simp only [isBelow, less, place?, Place.ofInt, Place.less, hless]

theorem isNumber_int (i : Int) : isNumber (int i) = true := rfl

theorem sorted_ints (ids : List Int) :
    sorted (ids.map int) = .ok ((ids.mergeSort fun i j => decide (i ≤ j)).map int) := by
  have hnumbers : (ids.map int).all isNumber = true := by simp [isNumber_int]
  have hsort : (ids.mergeSort fun i j => decide (i ≤ j)).map int
      = (ids.map int).mergeSort fun v w => !isBelow w v := by
    refine List.map_mergeSort fun i _ j _ => ?_
    rw [isBelow_int, Bool.eq_iff_iff]
    simp
  rw [sorted, hnumbers, Bool.true_or, if_pos rfl, hsort]

end Value

theorem exists_ints {column : Text} {rows : List Row}
    (h : ∀ row ∈ rows, ∃ i : Int, row.get? column = some (.int i)) :
    ∃ ids : List Int, rows.filterMap (·.get? column) = ids.map .int := by
  induction rows with
  | nil => exact ⟨[], rfl⟩
  | cons row rows ih =>
    obtain ⟨i, hi⟩ := h row List.mem_cons_self
    obtain ⟨ids, hids⟩ := ih fun r hr => h r (List.mem_cons_of_mem _ hr)
    exact ⟨i :: ids, by rw [List.filterMap_cons, hi, hids, List.map_cons]⟩

/-! ### What a row gains -/

namespace Entity

def writtenColumns : Entity → List Text
  | documents => ["tags", pathsColumn]
  | notes => ["tags"]
  | elements => ["parent_ids"]
  | logs => []

def Carries (owned : List Row) (completed : Row) : Entity → Prop
  | documents => completed.get? "tags" = some (.list (owned.map .object))
  | notes => completed.get? "tags" = some (.list (owned.map .object))
  | elements => (∀ row ∈ owned, ∃ i : Int, row.get? "parent_element_id" = some (.int i)) →
      ∃ ids : List Int, ids.Pairwise (· ≤ ·) ∧
        (ids.map Value.int).Perm (owned.filterMap (·.get? "parent_element_id")) ∧
        completed.get? "parent_ids" = some (.list (ids.map .int))
  | logs => True

/-- A row and the same row completed with what groups hold for its key. -/
structure Gains (e : Entity) (groups : Groups) (row completed : Row) : Prop where
  kept : ∀ column, column ∉ e.writtenColumns → completed.get? column = row.get? column
  carried : ∃ owned, groups.rowsOf ((row.get? e.target.primaryKey).getD .null) = .ok owned ∧
    e.Carries owned completed

end Entity

theorem Groups.attach_eq_ok {groups : Groups} {key column : String} {rows attached : List Row}
    (h : groups.attach key column rows = .ok attached) :
    List.Forall₂ (fun row out => ∃ owned,
      groups.rowsOf ((row.get? key).getD .null) = .ok owned ∧
        out = row.set column (.list (owned.map .object))) rows attached := by
  refine (forall₂_of_mapM_eq_ok h).imp fun row out hout => ?_
  obtain ⟨owned, howned, hout⟩ := exists_of_bind_eq_ok hout
  cases hout
  exact ⟨owned, howned, rfl⟩

theorem withParents_eq_ok {groups : Groups} {row completed : Row}
    (h : withParents groups row = .ok completed) :
    ∃ owned ids sorted, groups.rowsOf ((row.get? "signature_element_id").getD .null) = .ok owned ∧
      columnValues "parent_element_id" owned = .ok ids ∧ Value.sorted ids = .ok sorted ∧
      completed = row.set "parent_ids" (.list sorted) := by
  obtain ⟨owned, howned, h⟩ := exists_of_bind_eq_ok h
  obtain ⟨ids, hids, h⟩ := exists_of_bind_eq_ok h
  refine ⟨owned, ids, ?_⟩
  cases hsorted : Value.sorted ids with
  | error pair =>
    rw [hsorted] at h
    cases h
  | ok sorted =>
    rw [hsorted] at h
    cases h
    exact ⟨sorted, howned, hids, rfl, rfl⟩

namespace Entity

theorem gains_of_attach {e : Entity} {groups : Groups} {rows attached : List Row}
    (h : groups.attach e.target.primaryKey "tags" rows = .ok attached)
    (hwritten : (Text.ofString "tags") ∈ e.writtenColumns)
    (hcarries : ∀ owned completed, completed.get? "tags" = some (.list (owned.map .object)) →
      e.Carries owned completed) :
    List.Forall₂ (e.Gains groups) rows attached := by
  refine (Groups.attach_eq_ok h).imp fun row out hout => ?_
  obtain ⟨owned, howned, rfl⟩ := hout
  exact
    { kept := by
        intro column hcolumn
        rw [Row.get?_set, if_neg (by rintro rfl; exact hcolumn hwritten)]
      carried := ⟨owned, howned, hcarries owned _ (by rw [Row.get?_set, if_pos rfl])⟩ }

theorem gains_of_withParents {groups : Groups} {rows completed : List Row}
    (h : rows.mapM (withParents groups) = .ok completed) :
    List.Forall₂ (elements.Gains groups) rows completed := by
  refine (forall₂_of_mapM_eq_ok h).imp fun row out hout => ?_
  obtain ⟨owned, parents, sorted, howned, hparents, hsorted, rfl⟩ := withParents_eq_ok hout
  refine ⟨?_, owned, howned, ?_⟩
  · intro column hcolumn
    rw [Row.get?_set, if_neg (by simpa [writtenColumns] using hcolumn)]
  · intro hints
    obtain ⟨ids, hids⟩ := exists_ints hints
    rw [columnValues_eq_ok hparents, hids, Value.sorted_ints] at hsorted
    cases hsorted
    refine ⟨ids.mergeSort fun i j => decide (i ≤ j), ?_, ?_, by rw [Row.get?_set, if_pos rfl]⟩
    · exact List.pairwise_mergeSort' (· ≤ ·) ids
    · rw [hids]
      exact (List.mergeSort_perm ids _).map _

theorem Gains.withPaths {groups : Groups} {row attached : Row}
    (h : documents.Gains groups row attached) (paths : Value) :
    documents.Gains groups row (attached.set pathsColumn paths) := by
  obtain ⟨owned, howned, hcarries⟩ := h.carried
  refine ⟨?_, owned, howned, ?_⟩
  · intro column hcolumn
    have hother : column ≠ pathsColumn := by
      rintro rfl
      exact hcolumn (by simp [writtenColumns])
    rw [Row.get?_set, if_neg hother, h.kept column hcolumn]
  · show (attached.set pathsColumn paths).get? "tags" = _
    rw [Row.get?_set, if_neg (by decide)]
    exact hcarries

end Entity

end CatalogSearch
