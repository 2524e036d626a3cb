import CatalogSearch.Proofs.Protocol

/-!
# Pages partition the result

Where a page starts is settled when its plan is compiled, its number is read back off the offset when
the plan is run, whether it has rows is a comparison with the total, and how many pages there are
comes from a rounded quotient. All four agree: the plan of each page serves that page
(`SearchPlan.Paired.serves`), and the pages that are counted partition the rows (`partition_ceil`).
-/

namespace CatalogSearch

open Query

/-- The first `pages` windows of a size partition a number of rows. The window of page `p` starts at
`(p - 1) * size`. -/
structure Partition (total size pages : Int) : Prop where
  /-- The pages that start before the end are those that are counted. -/
  needed : ∀ p, 1 ≤ p → (p ≤ pages ↔ (p - 1) * size < total)
  ordered : ∀ p p', p < p' → (p - 1) * size + size ≤ (p' - 1) * size
  position : ∀ i, 0 ≤ i → i < total →
    ∃! p, (1 ≤ p ∧ p ≤ pages) ∧ (p - 1) * size ≤ i ∧ i < (p - 1) * size + size
  /-- One page after the other is the whole result. -/
  walk : ∀ result : List Row, (result.length : Int) = total →
    (List.range pages.toNat).flatMap (fun k => (result.drop (k * size.toNat)).take size.toNat)
      = result

theorem flatMap_take_drop {α : Type} {size : Nat} (count : Nat) (xs : List α)
    (h : xs.length ≤ count * size) :
    (List.range count).flatMap (fun k => (xs.drop (k * size)).take size) = xs := by
  induction count generalizing xs with
  | zero =>
    rw [Nat.zero_mul] at h
    rw [List.eq_nil_of_length_eq_zero (Nat.le_zero.1 h)]
    rfl
  | succ count ih =>
    have hrest : (xs.drop size).length ≤ count * size := by
      rw [Nat.succ_mul] at h
      rw [List.length_drop]
      omega
    rw [List.range_succ_eq_map, List.flatMap_cons, List.flatMap_map]
    have hnext : ∀ k, (xs.drop ((k + 1) * size)).take size
        = ((xs.drop size).drop (k * size)).take size := by
      intro k
      rw [List.drop_drop, Nat.succ_mul, Nat.add_comm]
    simp only [Nat.succ_eq_add_one, hnext]
    rw [ih _ hrest, Nat.zero_mul, List.drop_zero, List.take_append_drop]

/-- As many pages as the quotient rounded up partition the rows. -/
theorem partition_ceil {total size : Int} (htotal : 0 ≤ total) (hsize : 1 ≤ size) :
    Partition total size (-(-total / size)) := by
  have hneeded : ∀ p, p ≤ -(-total / size) ↔ (p - 1) * size < total :=
    fun p => le_neg_ediv_iff (by omega)
  have hordered : ∀ p p', p < p' → (p - 1) * size + size ≤ (p' - 1) * size := by
    intro p p' h
    have hmul : p * size ≤ (p' - 1) * size := Int.mul_le_mul_of_nonneg_right (by omega) (by omega)
    rw [Int.sub_mul, Int.one_mul]
    omega
  refine ⟨fun p _ => hneeded p, hordered, ?_, ?_⟩
  · intro i hi hlt
    -- the page of a position is its quotient, and the pages before and behind it are too far off
    have hbelow := Int.ediv_mul_le i (show size ≠ 0 by omega)
    have habove := Int.lt_ediv_add_one_mul_self i (show 0 < size by omega)
    have hnonneg : 0 ≤ i / size := Int.ediv_nonneg hi (by omega)
    rw [Int.add_mul, Int.one_mul] at habove
    refine ⟨i / size + 1, ⟨⟨by omega, ?_⟩, ?_, ?_⟩, ?_⟩
    · rw [hneeded, Int.add_sub_cancel]
      omega
    · rwa [Int.add_sub_cancel]
    · rwa [Int.add_sub_cancel]
    · rintro p ⟨-, hstart, hend⟩
      rcases lt_trichotomy p (i / size + 1) with h | h | h
      · have := hordered p _ h
        rw [Int.add_sub_cancel] at this
        omega
      · exact h
      · have := hordered _ p h
        rw [Int.add_sub_cancel] at this
        omega
  · intro result hlength
    refine flatMap_take_drop _ result ?_
    have hlast := (hneeded (-(-total / size) + 1)).not.1 (by omega)
    rw [Int.add_sub_cancel] at hlast
    have hpages : 0 ≤ -(-total / size) := (hneeded 0).2 (by omega)
    rw [← Int.ofNat_le, Int.natCast_mul, Int.toNat_of_nonneg hpages,
      Int.toNat_of_nonneg (by omega), hlength]
    omega

namespace SearchPlan

theorem Paired.window_marks {plan : SearchPlan} (h : plan.Paired) (settings : Settings) :
    ∃ head, (plan.sentQuery settings).text = head ++ " LIMIT ? OFFSET ?" ∧
      Query.marks head = plan.filterParameters.length := by
  refine ⟨plan.dataHead ++ plan.source ++ " ORDER BY " ++
    (plan.tableAlias ++ "." ++ plan.primaryKey) ++ " DESC", ?_, ?_⟩
  · rw [(plan.sentQuery_eq settings).1, dataQuery_text]
    have htail : plan.dataTail = " ORDER BY " ++ (plan.tableAlias ++ "." ++ plan.primaryKey) ++
        (" DESC" ++ " LIMIT ? OFFSET ?") := rfl
    rw [htail]
    simp only [String.append_assoc]
  · rw [marks_append, marks_append, marks_append, marks_append, h.marks_dataHead, h.marks_source,
      h.order, show marks " ORDER BY " = 0 by decide, show marks " DESC" = 0 by decide]
    omega

/-- How a plan serves page `p` of a result of `total` rows, of which there are `pages` in pages of
`size`. The last two marks of the data query stand for the window, and the data query is sent if the
page starts before the end. -/
structure Serves (plan : SearchPlan) (settings : Settings) (total size pages p : Int) : Prop where
  marks : ∃ head, (plan.sentQuery settings).text = head ++ " LIMIT ? OFFSET ?" ∧
    Query.marks head = plan.filterParameters.length
  window : (plan.sentQuery settings).parameters
    = plan.filterParameters ++ [.int size, .int ((p - 1) * size)]
  within : (p - 1) * size < total → ∀ s : Session, ∀ counted, s.reply 0 = .rows counted →
    firstScalar counted = .int total →
      s.Passes [⟨plan.countQuery, s.reply 0⟩, ⟨plan.sentQuery settings, s.reply 1⟩]
          ((plan.run settings).run.run s).2 ∧
        ∀ rows, s.reply 1 = .rows rows →
          ((plan.run settings).run.run s).1 = .ok ⟨rows, p, size, total, pages⟩
  beyond : total ≤ (p - 1) * size → ∀ s : Session, ∀ counted, s.reply 0 = .rows counted →
    firstScalar counted = .int total →
      s.Passes [⟨plan.countQuery, s.reply 0⟩] ((plan.run settings).run.run s).2 ∧
        ((plan.run settings).run.run s).1 = .ok ⟨[], p, size, total, pages⟩

theorem Paired.serves {plan : SearchPlan} (h : plan.Paired) {settings : Settings}
    {total size pages p : Int} (hsize : 1 ≤ size) (hp : 1 ≤ p) (hplansize : plan.pageSize = size)
    (hoffset : plan.offset = (p - 1) * size) (hpages : pageCount total size = .ok pages) :
    plan.Serves settings total size pages p := by
  have hstart : 0 ≤ plan.offset := by
    rw [hoffset]
    exact Int.mul_nonneg (by omega) (by omega)
  have hwindow : plan.window.offset = (p - 1) * size := (max_eq_right hstart).trans hoffset
  have hserved : plan.servedSize settings = size := by
    rw [servedSize, Settings.servedSize, if_neg (by omega), hplansize]
  have hsent : plan.sentQuery settings = plan.dataQuery := by
    rw [sentQuery, Window.correct, if_neg]
    show ¬plan.pageSize ≤ 0
    omega
  have hne : plan.servedSize settings ≠ 0 := by omega
  have hexecutes := h.executes hne
  rw [hserved, hwindow] at hexecutes
  have hpage : ∀ rows : List Row, ((pageCount total size).map fun pages =>
      (⟨rows, ((p - 1) * size).fdiv size + 1, size, total, pages⟩ : SearchPage))
        = .ok ⟨rows, p, size, total, pages⟩ := by
    intro rows
    have hfdiv : ((p - 1) * size).fdiv size + 1 = p := by
      rw [Int.mul_fdiv_cancel _ (by omega)]
      omega
    rw [hpages, hfdiv]
    rfl
  refine ⟨h.window_marks settings, ?_, ?_, ?_⟩
  · rw [hsent, ← hoffset, ← hplansize]
    rfl
  · intro hmore s counted h0 hscalar
    obtain ⟨hpasses, hrows, -⟩ := hexecutes.within h0 (countOf_of_int hscalar) hmore
    exact ⟨hpasses, fun rows h1 => (hrows rows h1).trans (hpage rows)⟩
  · intro hend s counted h0 hscalar
    obtain ⟨hpasses, hr⟩ := hexecutes.beyond h0 (countOf_of_int hscalar) hend
    exact ⟨hpasses, hr.trans (hpage [])⟩

end SearchPlan

/-- Pages partition the result. Whatever a request asks for, and whichever of the pages of a
size it asks for, the plan serves that page, with the same number of pages each time, and the pages
of that number partition the result. -/
theorem Entity.pages_partition (e : Entity) {settings : Settings}
    (hmax : 1 ≤ settings.maxPageSize) (hwide : settings.maxPageSize < 2 ^ 63)
    (criteria : List Clause) {required : List (String → Fragment)}
    (hrequired : ∀ build ∈ required, (build e.target.tableAlias).Paired) {asked total : Int}
    (hasked : 1 ≤ asked) (htotal : 0 ≤ total) (hbig : total ≤ 2 ^ 53) :
    ∃ pages, Partition total (min asked settings.maxPageSize) pages ∧
      ∀ q, ∃ plan, (e.compile settings ⟨criteria, q, asked⟩ required).result = .ok plan ∧
        plan.Serves settings total (min asked settings.maxPageSize) pages (max 1 q) := by
  have hsize : 1 ≤ min asked settings.maxPageSize := by omega
  refine ⟨_, partition_ceil htotal hsize, ?_⟩
  intro q
  obtain ⟨plan, hplan, hpaired⟩ := SearchTarget.compile_paired e.target_registers
    e.target_unmarked settings ⟨criteria, q, asked⟩ hrequired
  refine ⟨plan, hplan, ?_⟩
  have hcompiled := SearchTarget.compile_registered e.target_registers settings
    ⟨criteria, q, asked⟩ required
  cases hplan.symm.trans hcompiled
  refine hpaired.serves hsize (by omega) rfl ?_ (pageCount_eq htotal hbig hsize (by omega))
  show (SearchTarget.pageWindow settings ⟨criteria, q, asked⟩).2 = _
  exact if_pos (show 0 < min asked settings.maxPageSize by omega)

theorem Entity.pages_partition_notes :
    (1 : Int) ≤ Settings.maxPageSize {} ∧ Settings.maxPageSize {} < 2 ^ 63 ∧
      (∀ build ∈ [ownedOrShared (some 7)], (build notes.target.tableAlias).Paired) ∧
      Partition 5 (min 2 (Settings.maxPageSize {})) 3 ∧
      ∀ q, ∃ plan, (notes.compile {} ⟨[], q, 2⟩ [ownedOrShared (some 7)]).result = .ok plan ∧
        plan.Serves {} 5 (min 2 (Settings.maxPageSize {})) 3 (max 1 q) := by
  have hmax : (1 : Int) ≤ Settings.maxPageSize {} := by decide
  have hwide : Settings.maxPageSize {} < 2 ^ 63 := by decide
  have hrequired : ∀ build ∈ [ownedOrShared (some 7)],
      (build notes.target.tableAlias).Paired := by
    intro build hbuild
    rw [List.mem_singleton.1 hbuild]
    exact ⟨show marks _ = _ by decide, by simp [ownedOrShared]⟩
  obtain ⟨pages, hpartition, hserves⟩ := notes.pages_partition hmax hwide [] hrequired
    (show (1 : Int) ≤ 2 by decide) (show (0 : Int) ≤ 5 by decide) (by decide)
  have hsize : min 2 (Settings.maxPageSize {}) = 2 := by decide
  have hthree := hpartition.needed 3 (by decide)
  have hfour := hpartition.needed 4 (by decide)
  rw [hsize] at hthree hfour
  obtain rfl : pages = 3 := by omega
  exact ⟨hmax, hwide, hrequired, hpartition, hserves⟩

end CatalogSearch
