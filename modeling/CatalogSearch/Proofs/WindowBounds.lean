import CatalogSearch.Proofs.Execution
import Mathlib.Algebra.Order.Ring.Int

/-!
# Windows that can be bound

The store binds integers of 64 bits and no others, and a request may ask for a page of any number
and any size. The size is cut to the greatest one when a plan is compiled and replaced by the default
one when the plan is run. The offset is a product of what the request asks for and can be of any
size, but the query that it stands in is only sent for a total beyond it. So the window of a query
that is sent lies between bounds that no request has a hand in (`Entity.exists_runsWithin`).
-/

namespace CatalogSearch

/-- The store can bind an integer: it is a signed word of 64 bits. -/
def Bindable (i : Int) : Prop := -2 ^ 63 ≤ i ∧ i < 2 ^ 63

/-! ### What a run can fail with -/

theorem countOf_ne_zeroPageSize (counted : List Row) : countOf counted ≠ .error .zeroPageSize := by
  rw [countOf]
  split
  · cases (firstScalar counted).toInteger <;> simp [Except.mapError]
  · simp

theorem failure_ne_zeroPageSize (fault : StoreFault) (q : Query) :
    fault.failure q ≠ .zeroPageSize := by
  rw [StoreFault.failure]
  split
  · simp
  · simp

theorem fetchedPage_ne_zeroPageSize {size : Int} (hsize : size ≠ 0) (offset total : Int)
    (rows : List Row) : fetchedPage size offset total rows ≠ .error .zeroPageSize := by
  rw [fetchedPage, if_neg hsize, pageCount, pagesUpTo]
  split
  · simp [Except.map]
  · simp [Except.map]

theorem FetchTalk.ne_zeroPageSize {data count : Query} {size offset : Int}
    {r : Except Failure SearchPage} {es : List Exchange}
    (h : FetchTalk data count size offset r es) (hsize : size ≠ 0) :
    r ≠ .error .zeroPageSize := by
  cases h with
  | countFault connecting fault => simp [failure_ne_zeroPageSize]
  | miscount h =>
    intro hzero
    cases hzero
    exact countOf_ne_zeroPageSize _ h
  | pastEnd => exact fetchedPage_ne_zeroPageSize hsize _ _ _
  | dataFault => simp [failure_ne_zeroPageSize]
  | fetched => exact fetchedPage_ne_zeroPageSize hsize _ _ _

/-! ### Plans -/

namespace SearchPlan

def windowed (plan : SearchPlan) (size offset : Int) : Query :=
  ⟨plan.dataQuery.text, plan.filterParameters ++ [.int size, .int offset]⟩

theorem sentQuery_eq_windowed {plan : SearchPlan} (hoffset : 0 ≤ plan.offset)
    (settings : Settings) :
    plan.sentQuery settings = plan.windowed (plan.servedSize settings) plan.offset := by
  have hleast : max 0 plan.offset = plan.offset := Int.max_eq_right hoffset
  rw [sentQuery, Window.correct, servedSize, Settings.servedSize]
  by_cases hsize : plan.pageSize ≤ 0
  · rw [if_pos (show plan.window.size ≤ 0 from hsize), if_pos hsize, window, hleast]
    rfl
  · rw [if_neg (show ¬plan.window.size ≤ 0 from hsize), if_neg hsize]
    rfl

/-- A plan is refused before anything is asked, or it fetches its page. -/
theorem run_refused_or_fetches (plan : SearchPlan) (settings : Settings) :
    (plan.run settings).Converses fun r es =>
      (∃ defect, r = .error (.defect defect) ∧ es = []) ∨ plan.PageTalk settings r es := by
  refine (runSubmitted_talks settings _ _).mono ?_
  intro r es h
  obtain hrefused | ⟨fetching, counting, w, hdata, hcount, hw, htalk⟩ := h
  · exact Or.inl hrefused
  · obtain rfl := Submission.eq_of_check_ofQuery hdata
    obtain rfl := Submission.eq_of_check_ofQuery hcount
    cases plan.window_dataQuery.symm.trans hw
    exact Or.inr htalk

/-- A plan is run within the bounds of the settings. The data query is sent with a window of this
size at this offset, and for a total beyond the offset only. -/
structure RunsWithin (plan : SearchPlan) (settings : Settings) (size offset : Int) : Prop where
  one_le : 1 ≤ size
  size_le : size ≤ max settings.maxPageSize settings.defaultPageSize
  nonneg : 0 ≤ offset
  sent : (plan.run settings).Converses fun r es => r ≠ .error .zeroPageSize ∧
    ∀ x, es[1]? = some x → x.query = plan.windowed size offset ∧ ∃ counted total,
      es[0]? = some ⟨plan.countQuery, .rows counted⟩ ∧ countOf counted = .ok total ∧ offset < total
  executes : plan.Paired →
    Executes (plan.run settings) plan.countQuery (plan.windowed size offset) size offset

/-- The window of a query that is sent can be bound if the total and the settings can. -/
theorem RunsWithin.bindable {plan : SearchPlan} {settings : Settings} {size offset total : Int}
    (h : plan.RunsWithin settings size offset) (hmore : offset < total) (htotal : Bindable total)
    (hmax : Bindable settings.maxPageSize) (hdefault : Bindable settings.defaultPageSize) :
    Bindable size ∧ Bindable offset := by
  have hone := h.one_le
  have hsize := h.size_le
  have hoffset := h.nonneg
  simp only [Bindable] at *
  omega

end SearchPlan

theorem SearchTarget.runsWithin_of_compile {t : SearchTarget} {settings : Settings}
    {request : SearchRequest} {required : List (String → Fragment)} {plan : SearchPlan}
    (hdefault : 1 ≤ settings.defaultPageSize)
    (h : (t.compile settings request required).result = .ok plan) :
    plan.RunsWithin settings (plan.servedSize settings) plan.offset := by
  have hwindow := window_of_compile h
  obtain ⟨hmax, hoffset⟩ := pageWindow_bounds settings request
  rw [← hwindow] at hmax hoffset
  dsimp only at hmax hoffset
  have hserved : 1 ≤ plan.servedSize settings :=
    Settings.one_le_servedSize hdefault plan.pageSize
  have hne : plan.servedSize settings ≠ 0 := by omega
  have hstart : plan.window.offset = plan.offset := Int.max_eq_right hoffset
  have hsent := SearchPlan.sentQuery_eq_windowed hoffset settings
  refine ⟨hserved, ?_, hoffset, ?_, ?_⟩
  · rw [SearchPlan.servedSize, Settings.servedSize]
    split
    · omega
    · omega
  · refine (plan.run_refused_or_fetches settings).mono ?_
    intro r es h
    obtain ⟨defect, rfl, rfl⟩ | htalk := h
    · simp
    · rw [SearchPlan.PageTalk, hsent, hstart] at htalk
      exact ⟨htalk.ne_zeroPageSize hne, fun x hx => htalk.of_sent hx⟩
  · intro hpaired
    have hexecutes := hpaired.executes hne
    rwa [hsent, hstart] at hexecutes

/-- No request makes the window unbindable. Whatever page is asked for, of whatever size, the
plan of the request is run within the bounds of the settings, and where its data query is sent, for
a total beyond the offset, the window can be bound if the total and the settings can. -/
theorem Entity.exists_runsWithin (e : Entity) {settings : Settings}
    (hdefault : 1 ≤ settings.defaultPageSize) (request : SearchRequest)
    (required : List (String → Fragment)) :
    ∃ plan size offset, (e.compile settings request required).result = .ok plan ∧
      plan.RunsWithin settings size offset ∧
      ∀ total, offset < total → Bindable total → Bindable settings.maxPageSize →
        Bindable settings.defaultPageSize → Bindable size ∧ Bindable offset := by
  have hcompiled := SearchTarget.compile_registered e.target_registers settings request required
  have hwithin := SearchTarget.runsWithin_of_compile hdefault hcompiled
  exact ⟨_, _, _, hcompiled, hwithin, fun total => hwithin.bindable⟩

theorem Entity.exists_runsWithin_notes :
    1 ≤ Settings.defaultPageSize {} ∧
      ∃ plan size offset,
        (notes.compile {} ⟨[], 10 ^ 30, 10 ^ 40⟩ [ownedOrShared (some 7)]).result = .ok plan ∧
        plan.RunsWithin {} size offset ∧
        ∀ total, offset < total → Bindable total → Bindable (Settings.maxPageSize {}) →
          Bindable (Settings.defaultPageSize {}) → Bindable size ∧ Bindable offset := by
  have hdefault : 1 ≤ Settings.defaultPageSize {} := by decide
  exact ⟨hdefault, notes.exists_runsWithin hdefault ⟨[], 10 ^ 30, 10 ^ 40⟩ [ownedOrShared (some 7)]⟩

end CatalogSearch
