import CatalogSearch.Related

/-!
# Keys

Values that can be keys fall into classes of equal ones: `Value.sameness` names the class of a key,
and two keys are the same if they name one class. What is not a number names none, so it is not even
the same as itself. `distinctKeys` keeps the first key of each class.
-/

namespace CatalogSearch

namespace Place

theorem same_iff {p q : Place} : p.same q = true ↔ p = q ∧ p ≠ .nowhere := by
  cases p <;> cases q <;> simp [same]

end Place

namespace Value

/-- What makes a key the same as another: being null, a text, or a place on the number line. -/
inductive Sameness where
  | null
  | text (t : Text)
  | number (p : Place)

/-- The class of a key. What is not a number has none. -/
def sameness? : Value → Option Sameness
  | null => some .null
  | text t => some (.text t)
  | v => (v.place?.filter (· ≠ .nowhere)).map .number

theorem place_same_iff (p q : Place) : p.same q = true ↔
    ∃ c, ((some p).filter (· ≠ .nowhere)).map Sameness.number = some c ∧
      ((some q).filter (· ≠ .nowhere)).map Sameness.number = some c := by
  rw [Place.same_iff]
  constructor
  · rintro ⟨rfl, hp⟩
    exact ⟨.number p, by simp [hp], by simp [hp]⟩
  · rintro ⟨c, hp, hq⟩
    simp only [Option.map_eq_some_iff, Option.filter_eq_some_iff, Option.some.injEq,
      decide_eq_true_eq] at hp hq
    obtain ⟨_, ⟨rfl, hne⟩, rfl⟩ := hp
    obtain ⟨_, ⟨rfl, -⟩, hpq⟩ := hq
    cases hpq
    exact ⟨rfl, hne⟩

theorem text_same_iff (s t : Text) : (s == t) = true ↔
    ∃ c, some (Sameness.text s) = some c ∧ some (Sameness.text t) = some c := by
  rw [beq_iff_eq]
  constructor
  · rintro rfl
    exact ⟨_, rfl, rfl⟩
  · rintro ⟨_, hs, ht⟩
    cases hs
    cases ht
    rfl

theorem same_iff {v w : Value} (hv : v.isKey = true) :
    v.same w = true ↔ ∃ c, v.sameness? = some c ∧ w.sameness? = some c := by
  cases v with
  | null => cases w <;> simp [same, sameness?, place?]
  | text s =>
    cases w with
    | text t => exact text_same_iff s t
    | _ => simp [same, sameness?, place?]
  | list _ => cases hv
  | object _ => cases hv
  | _ =>
    cases w with
    | bool _ | int _ | float _ =>
      simp only [same, sameness?, place?]
      exact place_same_iff _ _
    | _ => simp [same, sameness?, place?]

theorem same_congr {v w : Value} (hv : v.isKey = true) (hw : w.isKey = true)
    (h : v.same w = true) (u : Value) : v.same u = w.same u := by
  obtain ⟨c, hvc, hwc⟩ := (same_iff hv).1 h
  rw [Bool.eq_iff_iff, same_iff hv, same_iff hw, hvc, hwc]

theorem same_trans {u v w : Value} (hu : u.isKey = true) (hv : v.isKey = true)
    (huv : u.same v = true) (hvw : v.same w = true) : u.same w = true := by
  rw [same_congr hu hv huv]
  exact hvw

theorem same_of_same {u v w : Value} (hu : u.isKey = true) (hv : v.isKey = true)
    (huw : u.same w = true) (hvw : v.same w = true) : u.same v = true := by
  obtain ⟨c, huc, hwc⟩ := (same_iff hu).1 huw
  obtain ⟨d, hvd, hwd⟩ := (same_iff hv).1 hvw
  cases hwc.symm.trans hwd
  exact (same_iff hu).2 ⟨c, huc, hvd⟩

theorem same_comm {v w : Value} (hv : v.isKey = true) (hw : w.isKey = true) :
    v.same w = w.same v := by
  rw [Bool.eq_iff_iff, same_iff hv, same_iff hw]
  exact exists_congr fun c => and_comm

/-- Every key but the one that is not a number is the same as itself. -/
theorem same_self {v : Value} (hv : v.isKey = true) (hnan : v ≠ .float .nan) :
    v.same v = true := by
  obtain ⟨c, hc⟩ : ∃ c, v.sameness? = some c := by
    cases v with
    | null => exact ⟨_, rfl⟩
    | bool b => exact ⟨_, rfl⟩
    | int i => exact ⟨_, rfl⟩
    | text t => exact ⟨_, rfl⟩
    | list _ => cases hv
    | object _ => cases hv
    | float x =>
      cases x with
      | finite negative m p => exact ⟨_, rfl⟩
      | infinite negative => cases negative <;> exact ⟨_, rfl⟩
      | nan => exact absurd rfl hnan
  exact (same_iff hv).2 ⟨c, hc, hc⟩

/-- The values that are not the same as one before them. -/
def firstSeen : List Value → List Value
  | [] => []
  | v :: vs => v :: (firstSeen vs).filter fun w => !w.same v

theorem firstSeen_eq_nil {vs : List Value} : firstSeen vs = [] ↔ vs = [] := by
  cases vs <;> simp [firstSeen]

theorem mem_of_mem_firstSeen {v : Value} {vs : List Value} (h : v ∈ firstSeen vs) : v ∈ vs := by
  induction vs with
  | nil => exact h
  | cons w ws ih =>
    rcases List.mem_cons.1 h with rfl | h
    · exact List.mem_cons_self
    · exact List.mem_cons_of_mem _ (ih (List.mem_filter.1 h).1)

theorem foldl_distinctKeys {seen vs : List Value} (hvs : ∀ v ∈ vs, v.isKey = true) :
    vs.foldl (fun seen v => if seen.any (v.same ·) then seen else seen ++ [v]) seen
      = seen ++ (firstSeen vs).filter fun v => !seen.any (v.same ·) := by
  induction vs generalizing seen with
  | nil => simp [firstSeen]
  | cons v vs ih =>
    have hkeys : ∀ w ∈ vs, w.isKey = true := fun w hw => hvs w (List.mem_cons_of_mem _ hw)
    rw [List.foldl_cons, ih hkeys, firstSeen, List.filter_cons, List.filter_filter]
    by_cases hv : seen.any (v.same ·) = true
    · -- what is the same as this key is the same as one that was kept
      have hcover : ∀ w ∈ firstSeen vs, w.same v = true → seen.any (w.same ·) = true := by
        intro w hw hwv
        obtain ⟨u, hu, hvu⟩ := List.any_eq_true.1 hv
        have hwkey := hkeys w (mem_of_mem_firstSeen hw)
        exact List.any_eq_true.2 ⟨u, hu, same_trans hwkey (hvs v List.mem_cons_self) hwv hvu⟩
      rw [if_pos hv, if_neg (by simp [hv])]
      congr 1
      apply List.filter_congr
      intro w hw
      cases hwv : w.same v with
      | false => simp
      | true => simp [hcover w hw hwv]
    · rw [if_neg hv, if_pos (by simpa using hv), List.append_assoc, List.singleton_append]
      congr 2
      apply List.filter_congr
      intro w _
      simp [List.any_append]

theorem distinctKeys_eq_firstSeen {vs : List Value} (hvs : ∀ v ∈ vs, v.isKey = true) :
    distinctKeys vs = firstSeen vs := by
  rw [distinctKeys, foldl_distinctKeys hvs]
  simp

/-- One more key is kept if none of those kept so far is the same. -/
theorem firstSeen_concat {vs : List Value} {v : Value} (hvs : ∀ w ∈ vs, w.isKey = true)
    (hv : v.isKey = true) :
    firstSeen (vs ++ [v])
      = if (firstSeen vs).any (v.same ·) then firstSeen vs else firstSeen vs ++ [v] := by
  have hall : ∀ w ∈ vs ++ [v], w.isKey = true := by
    intro w hw
    rcases List.mem_append.1 hw with hw | hw
    · exact hvs w hw
    · exact List.mem_singleton.1 hw ▸ hv
  rw [← distinctKeys_eq_firstSeen hall, ← distinctKeys_eq_firstSeen hvs, distinctKeys,
    List.foldl_append]
  rfl

theorem pairwise_firstSeen (vs : List Value) :
    (firstSeen vs).Pairwise fun v w => w.same v = false := by
  induction vs with
  | nil => exact .nil
  | cons v vs ih =>
    refine .cons ?_ (ih.filter _)
    intro w hw
    simpa using (List.mem_filter.1 hw).2

/-- Of each key a spelling is kept. -/
theorem any_firstSeen {vs : List Value} (hvs : ∀ v ∈ vs, v.isKey = true ∧ v ≠ .float .nan)
    {v : Value} (hv : v ∈ vs) : (firstSeen vs).any (v.same ·) = true := by
  induction vs with
  | nil => cases hv
  | cons u us ih =>
    rw [firstSeen, List.any_cons, Bool.or_eq_true]
    rcases List.mem_cons.1 hv with rfl | hmem
    · exact .inl (same_self (hvs v hv).1 (hvs v hv).2)
    · obtain ⟨w, hw, hsame⟩ := List.any_eq_true.1
        (ih (fun w hw => hvs w (List.mem_cons_of_mem _ hw)) hmem)
      cases hwu : w.same u with
      | true =>
        have hkey := (hvs w (List.mem_cons_of_mem _ (mem_of_mem_firstSeen hw))).1
        exact .inl (same_trans (hvs v hv).1 hkey hsame hwu)
      | false =>
        exact .inr (List.any_eq_true.2 ⟨w, List.mem_filter.2 ⟨hw, by simp [hwu]⟩, hsame⟩)

end Value

end CatalogSearch
