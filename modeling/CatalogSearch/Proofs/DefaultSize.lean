import CatalogSearch.Proofs.Log
import CatalogSearch.Proofs.Paging

/-!
# Page sizes that are not positive

A page size that is not positive is corrected when a plan is run, but where the page starts was
settled when the plan was compiled, and without a size every page starts at the beginning. So such a
size means the first page of the default size, whatever page was asked for. That is the page of the
default size that was asked for if it is the first one, and for every later page the two can be told
apart: by the number of the page that comes back, even when there are no rows at all.
-/

namespace CatalogSearch

namespace SearchPlan

variable {plan : SearchPlan} {settings : Settings}

def paged (plan : SearchPlan) (size offset : Int) : SearchPlan :=
  { plan with pageSize := size, offset := offset }

theorem Paired.paged (h : plan.Paired) (size offset : Int) : (plan.paged size offset).Paired :=
  ⟨h.predicates, h.joins, h.columns, h.table, h.order⟩

theorem servedSize_paged (plan : SearchPlan) (settings : Settings) {size : Int} (hsize : 1 ≤ size)
    (offset : Int) : (plan.paged size offset).servedSize settings = size :=
  if_neg (show ¬size ≤ 0 by omega)

/-- Without a size, a plan from the beginning is run like that of the default size. -/
theorem Paired.agree_default (h : plan.Paired) (hdefault : 1 ≤ settings.defaultPageSize)
    {size : Int} (hsize : size ≤ 0) :
    ((plan.paged size 0).run settings).Agree
      ((plan.paged settings.defaultPageSize 0).run settings) := by
  have hcorrected := (h.paged size 0).run_agrees settings
  have hgiven := (h.paged settings.defaultPageSize 0).run_agrees settings
  have hserved : (plan.paged size 0).servedSize settings = settings.defaultPageSize := if_pos hsize
  have hsent : (plan.paged size 0).sentQuery settings
      = (plan.paged settings.defaultPageSize 0).sentQuery settings := by
    rw [sentQuery, sentQuery, Window.correct, Window.correct]
    rw [if_pos (show (plan.paged size 0).window.size ≤ 0 from hsize)]
    rw [if_neg (show ¬(plan.paged settings.defaultPageSize 0).window.size ≤ 0 from by
      show ¬settings.defaultPageSize ≤ 0
      omega)]
    rfl
  rw [plan.servedSize_paged settings hdefault] at hgiven
  rw [hserved, hsent] at hcorrected
  exact hcorrected.trans hgiven.symm

def emptyStore : Session := { replies := [.rows [[("total", .int 0)]]] }

/-- The number of a page comes back also when there are no rows. -/
theorem Paired.run_empty (h : plan.Paired) (hsize : 1 ≤ plan.servedSize settings) :
    ∃ page, ((plan.run settings).run.run emptyStore).1 = .ok page ∧
      page.page = plan.window.offset.fdiv (plan.servedSize settings) + 1 := by
  have hcount : countOf [[(Text.ofString "total", Value.int 0)]] = .ok 0 := rfl
  have hbound : (0 : Int).natAbs < 2 ^ 63 := by decide
  obtain ⟨pages, hpages⟩ := exists_pageCount hbound (plan.servedSize settings)
  have hne : plan.servedSize settings ≠ 0 := by omega
  have hstart : 0 ≤ plan.window.offset := le_max_left 0 plan.offset
  obtain ⟨-, hresult⟩ := (h.executes hne).beyond (s := emptyStore) rfl hcount hstart
  rw [hpages] at hresult
  exact ⟨_, hresult, rfl⟩

theorem Paired.start_eq (h : plan.Paired) {size k k' : Int} (hsize : 1 ≤ size) (hk : 0 ≤ k)
    (hk' : 0 ≤ k') (hagree : ((plan.paged size (k * size)).run settings).Agree
      ((plan.paged size (k' * size)).run settings)) : k = k' := by
  have hnumber : ∀ i, 0 ≤ i → ∃ page,
      (((plan.paged size (i * size)).run settings).run.run emptyStore).1 = .ok page ∧
        page.page = i + 1 := by
    intro i hi
    have hserved := plan.servedSize_paged settings hsize (i * size)
    have hwindow : (plan.paged size (i * size)).window.offset = i * size :=
      max_eq_right (Int.mul_nonneg hi (by omega))
    have hpaged : 1 ≤ (plan.paged size (i * size)).servedSize settings := by
      rw [hserved]
      exact hsize
    obtain ⟨page, hpage, hnumber⟩ := (h.paged size (i * size)).run_empty hpaged
    refine ⟨page, hpage, ?_⟩
    rw [hnumber, hserved, hwindow, Int.mul_fdiv_cancel _ (by omega)]
  obtain ⟨page, hpage, hi⟩ := hnumber k hk
  obtain ⟨page', hpage', hi'⟩ := hnumber k' hk'
  have hsame := (hagree emptyStore).1
  rw [hpage, hpage'] at hsame
  cases hsame
  omega

theorem Paired.agree_default_iff (h : plan.Paired) (hdefault : 1 ≤ settings.defaultPageSize)
    {size : Int} (hsize : size ≤ 0) (page : Int) :
    ((plan.paged size 0).run settings).Agree
        ((plan.paged settings.defaultPageSize ((max 1 page - 1) * settings.defaultPageSize)).run
          settings) ↔ page ≤ 1 := by
  have hfirst := h.agree_default hdefault hsize
  constructor
  · intro hagree
    have hstarts := hfirst.symm.trans hagree
    rw [← Int.zero_mul settings.defaultPageSize] at hstarts
    have hpage := h.start_eq hdefault le_rfl (by omega) hstarts
    omega
  · intro hpage
    rw [max_eq_left hpage, Int.sub_self, Int.zero_mul]
    exact hfirst

end SearchPlan

namespace Entity

/-- The plans for the pages of a request differ in their windows only. -/
theorem compile_paged (e : Entity) (settings : Settings) (criteria : List Clause)
    {required : List (String → Fragment)}
    (hrequired : ∀ build ∈ required, (build e.target.tableAlias).Paired) :
    ∃ plan : SearchPlan, plan.Paired ∧ ∀ page asked,
      (e.compile settings ⟨criteria, page, asked⟩ required).result
        = .ok (plan.paged (min asked settings.maxPageSize)
            (if 0 < min asked settings.maxPageSize
              then (max 1 page - 1) * min asked settings.maxPageSize else 0)) := by
  obtain ⟨plan, hplan, hpaired⟩ := SearchTarget.compile_paired e.target_registers
    e.target_unmarked settings ⟨criteria, 1, 1⟩ hrequired
  refine ⟨plan, hpaired, fun page asked => ?_⟩
  have hcompiled := SearchTarget.compile_registered e.target_registers settings
    ⟨criteria, 1, 1⟩ required
  cases hplan.symm.trans hcompiled
  exact SearchTarget.compile_registered e.target_registers settings ⟨criteria, page, asked⟩ required

theorem compile_default (e : Entity) {settings : Settings}
    (hdefault : 1 ≤ settings.defaultPageSize)
    (hmax : settings.defaultPageSize ≤ settings.maxPageSize) (criteria : List Clause)
    {required : List (String → Fragment)}
    (hrequired : ∀ build ∈ required, (build e.target.tableAlias).Paired) :
    ∃ plan : SearchPlan, plan.Paired ∧
      (∀ page asked, asked ≤ 0 →
        (e.compile settings ⟨criteria, page, asked⟩ required).result = .ok (plan.paged asked 0)) ∧
      ∀ page, (e.compile settings ⟨criteria, page, settings.defaultPageSize⟩ required).result
        = .ok (plan.paged settings.defaultPageSize
            ((max 1 page - 1) * settings.defaultPageSize)) := by
  obtain ⟨plan, hpaired, hcompiled⟩ := e.compile_paged settings criteria hrequired
  refine ⟨plan, hpaired, ?_, ?_⟩
  · intro page asked hasked
    have hmin : min asked settings.maxPageSize = asked := min_eq_left (by omega)
    rw [hcompiled, hmin, if_neg (by omega)]
  · intro page
    rw [hcompiled, min_eq_left hmax, if_pos (by omega)]

/-- A page size that is not positive means the first page of the default size. It means the page
that was asked for exactly if that is the first one. -/
theorem default_size_iff (e : Entity) {settings : Settings}
    (hdefault : 1 ≤ settings.defaultPageSize)
    (hmax : settings.defaultPageSize ≤ settings.maxPageSize) (criteria : List Clause)
    {required : List (String → Fragment)}
    (hrequired : ∀ build ∈ required, (build e.target.tableAlias).Paired) (page : Int) {asked : Int}
    (hasked : asked ≤ 0) :
    ∃ plan first same : SearchPlan,
      (e.compile settings ⟨criteria, page, asked⟩ required).result = .ok plan ∧
      (e.compile settings ⟨criteria, 1, settings.defaultPageSize⟩ required).result = .ok first ∧
      (e.compile settings ⟨criteria, page, settings.defaultPageSize⟩ required).result = .ok same ∧
      (plan.run settings).Agree (first.run settings) ∧
      ((plan.run settings).Agree (same.run settings) ↔ page ≤ 1) := by
  obtain ⟨plan, hpaired, hunsized, hsized⟩ := e.compile_default hdefault hmax criteria hrequired
  refine ⟨_, _, _, hunsized page asked hasked, hsized 1, hsized page, ?_,
    hpaired.agree_default_iff hdefault hasked page⟩
  exact (hpaired.agree_default_iff hdefault hasked 1).2 le_rfl

theorem default_size_iff_notes :
    1 ≤ Settings.defaultPageSize {} ∧ Settings.defaultPageSize {} ≤ Settings.maxPageSize {} ∧
      (∀ build ∈ [ownedOrShared (some 7)], (build notes.target.tableAlias).Paired) ∧
      (-3 : Int) ≤ 0 ∧
      ∃ plan first same : SearchPlan,
        (notes.compile {} ⟨[], 4, -3⟩ [ownedOrShared (some 7)]).result = .ok plan ∧
        (notes.compile {} ⟨[], 1, 10⟩ [ownedOrShared (some 7)]).result = .ok first ∧
        (notes.compile {} ⟨[], 4, 10⟩ [ownedOrShared (some 7)]).result = .ok same ∧
        (plan.run {}).Agree (first.run {}) ∧
        ((plan.run {}).Agree (same.run {}) ↔ (4 : Int) ≤ 1) := by
  have hdefault : 1 ≤ Settings.defaultPageSize {} := by decide
  have hmax : Settings.defaultPageSize {} ≤ Settings.maxPageSize {} := by decide
  have hrequired : ∀ build ∈ [ownedOrShared (some 7)],
      (build notes.target.tableAlias).Paired := by
    intro build hbuild
    rw [List.mem_singleton.1 hbuild]
    exact ⟨show Query.marks _ = _ by decide, by simp [ownedOrShared]⟩
  exact ⟨hdefault, hmax, hrequired, by decide,
    notes.default_size_iff hdefault hmax [] hrequired 4 (by decide)⟩

/-- The second page of no size is not the second page of the default size. -/
theorem second_page_lost :
    ∃ plan same : SearchPlan,
      (notes.compile {} ⟨[], 2, 0⟩ []).result = .ok plan ∧
      (notes.compile {} ⟨[], 2, Settings.defaultPageSize {}⟩ []).result = .ok same ∧
      ¬(plan.run {}).Agree (same.run {}) := by
  have hdefault : 1 ≤ Settings.defaultPageSize {} := by decide
  have hnone : ∀ build ∈ ([] : List (String → Fragment)),
      (build notes.target.tableAlias).Paired := by simp
  obtain ⟨plan, hpaired, hunsized, hsized⟩ :=
    notes.compile_default hdefault (by decide) [] hnone
  refine ⟨_, _, hunsized 2 0 le_rfl, hsized 2, ?_⟩
  rw [hpaired.agree_default_iff hdefault le_rfl]
  decide

end Entity

end CatalogSearch
