import CatalogSearch.Proofs.Conversation

/-!
# Properties of the parts

A search is put together from results, reports and queries, in sequence. A property that these three
have and that sequences keep is a property of every computation of a search. `Run.Compositional`
names such properties, and the theorems about it follow the definitions of the computations once for
all of them.
-/

namespace CatalogSearch

namespace Run

/-- A property that the parts of a search have, and that putting parts in a row keeps. -/
structure Compositional (P : ∀ {α : Type}, Run α → Prop) : Prop where
  ofExcept : ∀ {α : Type} (x : Except Failure α), P (Run.ofExcept x)
  report : ∀ notices : List Notice, P (Run.report notices)
  ask : ∀ q : Query, P (Run.ask q)
  bind : ∀ {α β : Type} {m : Run α} {f : α → Run β}, P m → (∀ a, P (f a)) → P (m >>= f)

namespace Compositional

variable {P : ∀ {α : Type}, Run α → Prop} (h : Compositional P) {α β : Type}

include h

theorem pure (a : α) : P (Pure.pure a : Run α) := h.ofExcept (.ok a)

protected theorem throw (e : Failure) : P (MonadExcept.throw e : Run α) := h.ofExcept (.error e)

theorem mapM {f : α → Run β} (hf : ∀ a, P (f a)) (as : List α) : P (as.mapM f) := by
  induction as with
  | nil => exact h.pure []
  | cons a as ih =>
    rw [List.mapM_cons]
    exact h.bind (hf a) fun b => h.bind ih fun bs => h.pure (b :: bs)

theorem fetchPage (data count : Query) (size offset : Int) :
    P (fetchPage data count size offset) := by
  have hfinish : ∀ total rows, P (do
      if size = 0 then throw .zeroPageSize
      let pages ← Run.ofExcept (pageCount total size)
      return ⟨rows, offset.fdiv size + 1, size, total, pages⟩ : Run SearchPage) := by
    intro total rows
    split
    · exact h.bind (h.throw _) fun _ => h.bind (h.ofExcept _) fun _ => h.pure _
    · exact h.bind (h.ofExcept _) fun _ => h.pure _
  refine h.bind (h.ask count) fun counted => h.bind (h.ofExcept _) fun total => ?_
  dsimp only
  split
  · exact h.bind (h.ask data) fun rows => hfinish total rows
  · exact hfinish total []

theorem runPage (settings : Settings) (data count : Query) : P (runPage settings data count) := by
  rw [runPage_eq]
  apply h.bind (h.ofExcept _)
  intro w
  split
  · exact h.bind (h.report _) fun _ => h.fetchPage _ _ _ _
  · exact h.fetchPage _ _ _ _

theorem plan (plan : SearchPlan) (settings : Settings) : P (plan.run settings) :=
  h.bind (h.ofExcept _) fun _ => h.bind (h.ofExcept _) fun _ => h.runPage _ _ _

theorem load (source : RelatedSource) (key : String) (rows : List Row) :
    P (source.load key rows) := by
  apply h.bind (h.ofExcept _)
  intro values
  apply h.bind (h.ofExcept _)
  intro keys
  split
  · exact h.pure _
  · exact h.bind (h.ask _) fun _ => h.ofExcept _

theorem withPaths (row : Row) : P (withPaths row) :=
  h.bind (h.ofExcept _) fun _ => h.bind (h.report _) fun _ => h.pure _

theorem complete (e : Entity) (rows : List Row) : P (e.complete rows) := by
  cases e with
  | documents =>
    apply h.bind (h.load _ _ _)
    intro groups
    exact h.bind (h.ofExcept _) fun attached => h.mapM h.withPaths attached
  | notes => exact h.bind (h.load _ _ _) fun groups => h.ofExcept _
  | elements => exact h.bind (h.load _ _ _) fun groups => h.ofExcept _
  | logs => exact h.pure rows

/-- What the parts have, the search has. -/
theorem search (e : Entity) (settings : Settings) (request : SearchRequest) (p : Principal) :
    P (e.search settings request p) := by
  apply h.bind (h.ofExcept _)
  intro allowed
  apply h.bind (h.report _)
  intro _
  apply h.bind (h.report _)
  intro _
  apply h.bind (h.ofExcept _)
  intro plan
  apply h.bind (h.plan plan settings)
  intro page
  exact h.bind (h.complete e page.rows) fun rows => h.pure _

end Compositional

end Run

end CatalogSearch
