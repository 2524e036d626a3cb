import CatalogSearch.Proofs.Compilation
import CatalogSearch.Proofs.Keys

/-!
# Rows by owner

Related rows are read once, in the order of the reply, and each goes to the group of its owner. The
groups are looked up later by the keys of the page, and those may be spelled otherwise than the
owners. What is found for a key is `ownedBy`: the related rows of the reply whose owner is the same
as the key, in order, no other and none twice (`Groups.rowsOf_ofRows`). It rests on what one more
row does to a lookup (`Groups.find?_add`).
-/

namespace CatalogSearch

/-! ### Columns -/

namespace Row

theorem get?_cons (f : Text × Value) (row : Row) (column : Text) :
    get? (f :: row) column = if column = f.1 then some f.2 else row.get? column := by
  rw [get?, get?, List.lookup_cons]
  by_cases h : column = f.1
  · simp [h]
  · rw [beq_false_of_ne h, if_neg h]

theorem any_eq_isSome_get? (row : Row) (column : Text) :
    row.any (·.1 == column) = (row.get? column).isSome := by
  induction row with
  | nil => rfl
  | cons f row ih =>
    rw [List.any_cons, get?_cons, ih]
    grind

theorem get?_replaced (row : Row) (column other : Text) (v : Value) :
    get? (row.map fun f => if f.1 == column then (column, v) else f) other
      = if other = column then (row.get? column).map fun _ => v else row.get? other := by
  induction row with
  | nil => simp [get?]
  | cons f row ih =>
    rw [List.map_cons, get?_cons, ih, get?_cons, get?_cons]
    grind

theorem get?_set (row : Row) (column other : Text) (v : Value) :
    (row.set column v).get? other = if other = column then some v else row.get? other := by
  rw [set, any_eq_isSome_get?]
  split
  case isTrue h =>
    obtain ⟨w, hw⟩ := Option.isSome_iff_exists.1 h
    rw [get?_replaced, hw, Option.map_some]
  case isFalse h =>
    have hnone : row.get? column = none := by simpa using h
    have happend : get? (row ++ [(column, v)]) other
        = (row.get? other).or (get? [(column, v)] other) := List.lookup_append
    rw [happend, get?_cons]
    by_cases heq : other = column
    · rw [heq, hnone, if_pos rfl, if_pos rfl, Option.none_or]
    · have hnil : get? [] other = none := rfl
      rw [if_neg heq, if_neg heq, hnil, Option.or_none]

end Row

/-! ### Groups -/

theorem asKey_eq_ok {v key : Value} (h : asKey v = .ok key) : v = key ∧ key.isKey = true := by
  rw [asKey] at h
  split at h
  case isTrue hkey =>
    cases h
    exact ⟨rfl, hkey⟩
  case isFalse => cases h

/-- The related rows of an owner, without the column that names it. -/
def ownedBy (column : Text) (owner : Value) (related : List Row) : List Row :=
  (related.filter fun row => (row.get? column).any (owner.same ·)).map (·.erase column)

namespace Groups

variable {groups : Groups} {owner key : Value}

/-- One more row is found under the keys of its owner, behind the rows that were found there. -/
theorem find?_add (howner : owner.isKey = true) (hkey : key.isKey = true) (groups : Groups)
    (row : Row) :
    ((groups.add owner row).find? key).getD []
      = (groups.find? key).getD [] ++ if key.same owner then [row] else [] := by
  -- the owner of a group that the row joins stays as it was
  have hgroup : ((fun g : Value × List Row => key.same g.1) ∘
      fun g => if owner.same g.1 then (g.1, g.2 ++ [row]) else g) = fun g => key.same g.1 := by
    funext g
    rw [Function.comp_apply]
    split <;> rfl
  rw [add]
  split
  case isTrue hany =>
    rw [find?, List.find?_map, hgroup, find?]
    cases hfind : List.find? (fun g => key.same g.1) groups with
    | none =>
      -- a key of the owner would have found the group that the row joins
      have hother : key.same owner = false := by
        rw [← Bool.not_eq_true]
        intro hsame
        obtain ⟨g, hg, howns⟩ := List.any_eq_true.1 hany
        rw [← Value.same_congr hkey howner hsame] at howns
        exact List.find?_eq_none.1 hfind g hg howns
      simp [hother]
    | some g =>
      have hfound : key.same g.1 = true := by simpa using List.find?_some hfind
      cases hsame : key.same owner with
      | true =>
        rw [Value.same_congr hkey howner hsame] at hfound
        simp [hfound]
      | false =>
        have hother : owner.same g.1 = false := by
          rw [← Bool.not_eq_true]
          intro howns
          rw [Value.same_of_same hkey howner hfound howns] at hsame
          cases hsame
        simp [hother]
  case isFalse hnew =>
    rw [find?, List.find?_append, find?]
    cases hsame : key.same owner with
    | true =>
      have hnone : List.find? (fun g => key.same g.1) groups = none := by
        rw [List.find?_eq_none]
        intro g hg hfound
        rw [Value.same_congr hkey howner hsame] at hfound
        exact hnew (List.any_eq_true.2 ⟨g, hg, hfound⟩)
      simp [hnone, hsame]
    | false => simp [hsame]

def place (column : String) (groups : Groups) (row : Row) : Except Failure Groups :=
  match row.get? column with
  | none => .error (.missingColumn column)
  | some v => do return groups.add (← asKey v) (row.erase column)

theorem ofRows_eq_foldlM (column : String) (rows : List Row) :
    ofRows column rows = rows.foldlM (place column) [] := rfl

theorem place_eq_ok {column : String} {row : Row} {grouped : Groups}
    (h : groups.place column row = .ok grouped) :
    ∃ owner, row.get? column = some owner ∧ owner.isKey = true ∧
      grouped = groups.add owner (row.erase column) := by
  rw [place] at h
  split at h
  case h_1 => cases h
  case h_2 v hv =>
    obtain ⟨owner, hasKey, h⟩ := exists_of_bind_eq_ok h
    obtain ⟨rfl, hkey⟩ := asKey_eq_ok hasKey
    cases h
    exact ⟨v, hv, hkey, rfl⟩

/-- What is found for a key is what was found before and then the rows that belong to it. -/
theorem find?_foldlM_place {column : String} (hkey : key.isKey = true) {rows : List Row}
    {groups grouped : Groups} (h : rows.foldlM (place column) groups = .ok grouped) :
    (grouped.find? key).getD [] = (groups.find? key).getD [] ++ ownedBy column key rows := by
  induction rows generalizing groups with
  | nil =>
    cases h
    simp [ownedBy]
  | cons row rows ih =>
    rw [List.foldlM_cons] at h
    obtain ⟨placed, hplace, h⟩ := exists_of_bind_eq_ok h
    obtain ⟨owner, hget, howner, rfl⟩ := place_eq_ok hplace
    rw [ih h, find?_add howner hkey, List.append_assoc]
    congr 1
    rw [ownedBy, ownedBy, List.filter_cons, hget, Option.any_some]
    split <;> rfl

/-- What is found for a key is what belongs to it. -/
theorem rowsOf_ofRows {column : String} {rows : List Row} {groups : Groups}
    (h : ofRows column rows = .ok groups) (hkey : key.isKey = true) :
    groups.rowsOf key = .ok (ownedBy column key rows) := by
  rw [ofRows_eq_foldlM] at h
  have hfind := find?_foldlM_place hkey h
  rw [rowsOf, asKey, if_pos hkey, ← List.nil_append (ownedBy column key rows)]
  exact congrArg Except.ok hfind

end Groups

end CatalogSearch
