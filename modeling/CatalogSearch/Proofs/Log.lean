import CatalogSearch.Proofs.Composition

/-!
# The log is written and never read

Searches differ in what they note on the way, and nothing of that comes back: no computation here
reads the log. `Run.LogBlind` says that a computation comes to the same and leaves the same session
whatever the log holds, and that it adds the same records to it. The parts of a search have this and
sequences keep it, so every computation of a search has it.

Two computations that differ in nothing but their records agree (`Run.Agree`): neither the store nor
the client can tell them apart.
-/

namespace CatalogSearch

namespace Run

variable {α β : Type}

/-- The log makes no difference to a computation, which adds the same records to any log. -/
def LogBlind (m : Run α) : Prop :=
  ∀ s : Session, ∃ added, ∀ notices, m.run.run { s with notices := notices }
    = ((m.run.run s).1, { (m.run.run s).2 with notices := notices ++ added })

namespace LogBlind

variable {m : Run α} {f : α → Run β}

theorem ofExcept (x : Except Failure α) : (Run.ofExcept x).LogBlind := by
  intro s
  refine ⟨[], fun notices => ?_⟩
  rw [List.append_nil]
  cases x with
  | ok a => rfl
  | error e => rfl

theorem throw (e : Failure) : (MonadExcept.throw e : Run α).LogBlind := ofExcept (.error e)

theorem report (notices : List Notice) : (Run.report notices).LogBlind :=
  fun _ => ⟨notices, fun _ => rfl⟩

theorem bind (hm : m.LogBlind) (hf : ∀ a, (f a).LogBlind) : (m >>= f).LogBlind := by
  intro s
  obtain ⟨first, hfirst⟩ := hm s
  rcases hrun : m.run.run s with ⟨e | a, s'⟩
  · rw [hrun] at hfirst
    refine ⟨first, fun notices => ?_⟩
    rw [run_bind, run_bind, hfirst, hrun]
  · rw [hrun] at hfirst
    obtain ⟨rest, hrest⟩ := hf a s'
    refine ⟨first ++ rest, fun notices => ?_⟩
    rw [run_bind, run_bind, hfirst, hrun]
    dsimp only
    rw [hrest, List.append_assoc]

theorem refuse (q : Query) (fault : StoreFault) : (Run.refuse q fault : Run α).LogBlind := by
  rw [Run.refuse]
  split
  · exact bind (report _) fun _ => throw _
  · exact throw _

theorem ask (q : Query) : (Run.ask q).LogBlind := by
  rintro ⟨replies, calls, notices⟩
  cases replies with
  | nil => exact ⟨[], fun other => by rw [List.append_nil]; rfl⟩
  | cons reply rest =>
    cases reply with
    | rows rows => exact ⟨[], fun other => by rw [List.append_nil]; rfl⟩
    | fault connecting fault =>
      exact refuse q fault ⟨rest, if connecting then calls else calls ++ [q], notices⟩

theorem compositional : Compositional @LogBlind := ⟨ofExcept, report, ask, bind⟩

end LogBlind

/-! ### Computations that differ in their records only -/

/-- Two computations that send the same queries, use up the same replies and come to the same. -/
def Agree (m m' : Run α) : Prop :=
  ∀ s : Session, (m.run.run s).1 = (m'.run.run s).1 ∧
    (m.run.run s).2.calls = (m'.run.run s).2.calls ∧
    (m.run.run s).2.replies = (m'.run.run s).2.replies

namespace Agree

variable {m m' m'' : Run α}

theorem refl (m : Run α) : m.Agree m := fun _ => ⟨rfl, rfl, rfl⟩

theorem symm (h : m.Agree m') : m'.Agree m := by
  intro s
  obtain ⟨hresult, hcalls, hreplies⟩ := h s
  exact ⟨hresult.symm, hcalls.symm, hreplies.symm⟩

theorem trans (h : m.Agree m') (h' : m'.Agree m'') : m.Agree m'' := by
  intro s
  obtain ⟨hresult, hcalls, hreplies⟩ := h s
  obtain ⟨hresult', hcalls', hreplies'⟩ := h' s
  exact ⟨hresult.trans hresult', hcalls.trans hcalls', hreplies.trans hreplies'⟩

theorem report_bind (hm : m.LogBlind) (notices : List Notice) :
    (Run.report notices >>= fun _ => m).Agree m := by
  intro s
  obtain ⟨added, hadded⟩ := hm s
  have hrun : (Run.report notices >>= fun _ => m).run.run s
      = m.run.run { s with notices := s.notices ++ notices } := rfl
  rw [hrun, hadded]
  exact ⟨rfl, rfl, rfl⟩

end Agree

end Run

/-! ### Pages and searches -/

namespace SearchPlan

variable {plan : SearchPlan}

/-- Running a plan is fetching its page, with the data query as it is sent. -/
theorem Paired.run_agrees (h : plan.Paired) (settings : Settings) :
    (plan.run settings).Agree (fetchPage (plan.sentQuery settings) plan.countQuery
      (plan.servedSize settings) plan.window.offset) := by
  have hpage : runPage settings plan.dataQuery plan.countQuery
      = if plan.window.size ≤ 0 then
          Run.report [.pageSizeCorrected plan.window.sizeValue settings.defaultPageSize] >>= fun _ =>
            fetchPage (plan.sentQuery settings) plan.countQuery settings.defaultPageSize
              plan.window.offset
        else fetchPage (plan.sentQuery settings) plan.countQuery plan.window.size
          plan.window.offset := by
    rw [runPage_eq, window_dataQuery]
    rfl
  rw [h.run_eq, hpage, servedSize, Settings.servedSize]
  split
  case isTrue hsize =>
    rw [if_pos (show plan.pageSize ≤ 0 from hsize)]
    exact .report_bind (Run.LogBlind.compositional.fetchPage _ _ _ _) _
  case isFalse hsize =>
    rw [if_neg (show ¬plan.pageSize ≤ 0 from hsize)]
    exact .refl _

end SearchPlan

namespace Entity

/-- A search as it goes on once it is allowed. -/
def serve (e : Entity) (settings : Settings) (request : SearchRequest)
    (required : List (String → Fragment)) : Run SearchPage := do
  let compilation := e.compile settings request required
  Run.report compilation.notices
  let page ← (← Run.ofExcept compilation.result).run settings
  return { page with rows := ← e.complete page.rows }

theorem serve_logBlind (e : Entity) (settings : Settings) (request : SearchRequest)
    (required : List (String → Fragment)) : (e.serve settings request required).LogBlind := by
  have hparts := Run.LogBlind.compositional
  apply hparts.bind (hparts.report _)
  intro _
  apply hparts.bind (hparts.ofExcept _)
  intro plan
  apply hparts.bind (hparts.plan plan settings)
  intro page
  exact hparts.bind (hparts.complete e page.rows) fun _ => hparts.pure _

/-- A search is what is allowed of it, but for the notices of the permission. -/
theorem search_agrees {e : Entity} {request : SearchRequest} {p : Principal} {allowed : Allowed}
    (hallowed : e.allow request p = .ok allowed) (settings : Settings) :
    (e.search settings request p).Agree (e.serve settings allowed.request allowed.required) := by
  have hsearch : e.search settings request p
      = Run.report allowed.notices >>= fun _ => e.serve settings allowed.request allowed.required := by
    rw [search, hallowed]
    rfl
  rw [hsearch]
  exact .report_bind (e.serve_logBlind settings _ _) _

end Entity

end CatalogSearch
