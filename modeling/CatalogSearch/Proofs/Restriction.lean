import CatalogSearch.Entity.Visibility
import CatalogSearch.Proofs.Compilation
import Mathlib.Data.List.DropRight

/-!
# Requiring a condition and restricting a plan

A condition can be put on a search in two ways: it is required when the request is compiled, or the
plan is restricted afterwards. The first way collects all joins and predicates and makes the plan of
them at once, the second adds to a plan that is there. Requiring goes one condition at a time as
well (`plan_append`), so the two ways differ in one place only: a required condition loses the
blanks around its text, a restriction is taken as it stands. For conditions without such blanks they
are one and the same, and for any other they are not (`compile_append_iff`).
-/

namespace CatalogSearch

/-! ### Texts without blanks around them -/

namespace Text

/-- No blank at either end. -/
structure Unpadded (s : String) : Prop where
  head : ∀ c ∈ s.toList.head?, isBlank c = false
  last : ∀ c ∈ s.toList.getLast?, isBlank c = false

theorem dropWhile_eq_iff {p : Char → Bool} {cs : List Char} :
    cs.dropWhile p = cs ↔ ∀ c ∈ cs.head?, p c = false := by
  rw [List.dropWhile_eq_self_iff]
  cases cs <;> simp

theorem rdropWhile_eq_iff {p : Char → Bool} {cs : List Char} :
    cs.rdropWhile p = cs ↔ ∀ c ∈ cs.getLast?, p c = false := by
  rw [List.rdropWhile, List.reverse_eq_iff, dropWhile_eq_iff, List.head?_reverse]

theorem trim_eq_self_iff {s : String} : trim s = s ↔ Unpadded s := by
  have hchars : trim s = s ↔ (s.toList.dropWhile isBlank).rdropWhile isBlank = s.toList := by
    rw [trim, ← String.toList_inj, String.toList_ofList]
    rfl
  rw [hchars]
  constructor
  · intro h
    -- as nothing is lost in all, nothing is lost in the first step
    have hfront : s.toList.dropWhile isBlank = s.toList := by
      apply (List.dropWhile_sublist isBlank).eq_of_length_le
      have hback := (List.rdropWhile_prefix isBlank (s.toList.dropWhile isBlank)).length_le
      rw [h] at hback
      exact hback
    rw [hfront] at h
    exact ⟨dropWhile_eq_iff.1 hfront, rdropWhile_eq_iff.1 h⟩
  · rintro ⟨hhead, hlast⟩
    rw [dropWhile_eq_iff.2 hhead, rdropWhile_eq_iff.2 hlast]

end Text

theorem Predicate.trimmed_eq_ofCondition_iff {c : Condition} :
    trimmed c = ofCondition c ↔ Text.Unpadded c.text := by
  rw [← Text.trim_eq_self_iff, trimmed, ofCondition, Predicate.mk.injEq]
  simp

/-! ### Requiring step by step -/

namespace SearchPlan

def require (plan : SearchPlan) (f : Fragment) : SearchPlan :=
  { plan with
    joins := f.join.toList.foldl addJoin plan.joins
    predicates := plan.predicates ++ [.trimmed f.condition] }

theorem require_eq_restrict {f : Fragment} (h : Text.Unpadded f.condition.text)
    (plan : SearchPlan) : plan.require f = plan.restrict f := by
  rw [require, restrict, Predicate.trimmed_eq_ofCondition_iff.2 h]

theorem foldl_require_eq {fs : List Fragment} (h : ∀ f ∈ fs, Text.Unpadded f.condition.text)
    (plan : SearchPlan) : fs.foldl require plan = fs.foldl restrict plan := by
  induction fs generalizing plan with
  | nil => rfl
  | cons f fs ih =>
    rw [List.foldl_cons, List.foldl_cons, require_eq_restrict (h f List.mem_cons_self)]
    exact ih (fun g hg => h g (List.mem_cons_of_mem f hg)) _

theorem predicates_foldl_require (plan : SearchPlan) (fs : List Fragment) :
    (fs.foldl require plan).predicates
      = plan.predicates ++ fs.map fun f => .trimmed f.condition := by
  induction fs generalizing plan with
  | nil => simp
  | cons f fs ih =>
    rw [List.foldl_cons, ih, require, List.append_assoc]
    rfl

theorem predicates_foldl_restrict (plan : SearchPlan) (fs : List Fragment) :
    (fs.foldl restrict plan).predicates
      = plan.predicates ++ fs.map fun f => .ofCondition f.condition := by
  induction fs generalizing plan with
  | nil => simp
  | cons f fs ih =>
    rw [List.foldl_cons, ih, restrict, List.append_assoc]
    rfl

/-- Requiring and restricting agree only on conditions without blanks around them. -/
theorem foldl_require_eq_iff (plan : SearchPlan) (fs : List Fragment) :
    fs.foldl require plan = fs.foldl restrict plan
      ↔ ∀ f ∈ fs, Text.Unpadded f.condition.text := by
  constructor
  · intro h f hf
    have hpredicates := congrArg SearchPlan.predicates h
    rw [predicates_foldl_require, predicates_foldl_restrict] at hpredicates
    have hmap := List.append_cancel_left hpredicates
    exact Predicate.trimmed_eq_ofCondition_iff.1 (List.map_inj_left.1 hmap f hf)
  · intro h
    exact foldl_require_eq h plan

end SearchPlan

def Compilation.restrict (c : Compilation) (fs : List Fragment) : Compilation :=
  { c with result := c.result.map fun plan => fs.foldl SearchPlan.restrict plan }

namespace SearchTarget

variable (t : SearchTarget)

theorem plan_append (window : Int × Int) (joins : List String) (fs gs : List Fragment)
    (columns : List String) :
    t.plan window joins (fs ++ gs) columns
      = gs.foldl SearchPlan.require (t.plan window joins fs columns) := by
  induction gs generalizing fs with
  | nil => rw [List.append_nil, List.foldl_nil]
  | cons g gs ih =>
    have hone : t.plan window joins (fs ++ [g]) columns
        = (t.plan window joins fs columns).require g := by
      simp only [plan, SearchPlan.require, List.flatMap_append, List.flatMap_singleton,
        List.map_append, List.map_singleton, ← List.append_assoc, List.foldl_append]
    rw [List.append_cons, ih, hone, List.foldl_cons]

/-- What is required last is added to the plan last. -/
theorem compile_append (settings : Settings) (request : SearchRequest)
    (required more : List (String → Fragment)) :
    t.compile settings request (required ++ more)
      = ⟨(t.compile settings request required).notices,
          (t.compile settings request required).result.map fun plan =>
            (more.map (· t.tableAlias)).foldl SearchPlan.require plan⟩ := by
  unfold compile
  by_cases htable : isIdentifier t.table = true
  · rw [if_neg (by simp [htable]), if_neg (by simp [htable])]
    cases fillTemplates t.extraJoins t.tableAlias with
    | error e => rfl
    | ok joins =>
      dsimp only
      cases (Outcome.gather
          ((Criterion.ofClauses t.isHandled request.criteria).1.map t.outcome)).2 with
      | error e => rfl
      | ok asked =>
        cases fillTemplates t.extraColumns t.tableAlias with
        | error e => rfl
        | ok columns =>
          simp only [bind, Except.bind, pure, Except.pure, Except.map, List.map_append,
            ← List.append_assoc, plan_append]
  · rw [if_pos (by simp [htable]), if_pos (by simp [htable])]
    rfl

/-- Requiring a condition is restricting the plan. Whatever the target, the request and the
conditions required before, and whether or not there is a plan: to require further conditions
without blanks around them and to restrict the compiled plan by them, in order, come to the same,
failures and notices included. -/
theorem compile_required_eq_restrict (settings : Settings) (request : SearchRequest)
    (required more : List (String → Fragment))
    (hmore : ∀ build ∈ more, Text.Unpadded (build t.tableAlias).condition.text) :
    t.compile settings request (required ++ more)
      = (t.compile settings request required).restrict (more.map (· t.tableAlias)) := by
  have hfragments : ∀ f ∈ more.map (· t.tableAlias), Text.Unpadded f.condition.text := by
    intro f hf
    obtain ⟨build, hbuild, rfl⟩ := List.mem_map.1 hf
    exact hmore build hbuild
  have hsteps := funext (SearchPlan.foldl_require_eq hfragments)
  rw [compile_append, hsteps, Compilation.restrict]

/-- The blanks matter: with a plan, the two ways agree for no other conditions. -/
theorem compile_append_iff {settings : Settings} {request : SearchRequest}
    {required : List (String → Fragment)} {plan : SearchPlan}
    (hplan : (t.compile settings request required).result = .ok plan)
    (more : List (String → Fragment)) :
    t.compile settings request (required ++ more)
        = (t.compile settings request required).restrict (more.map (· t.tableAlias))
      ↔ ∀ build ∈ more, Text.Unpadded (build t.tableAlias).condition.text := by
  rw [compile_append, Compilation.restrict, Compilation.mk.injEq, hplan]
  simp only [Except.map, Except.ok.injEq, true_and, SearchPlan.foldl_require_eq_iff,
    List.forall_mem_map]

/-- Conditions on notes: the user 7 may see them, their owner is active, and they are of one
category. The join of the second condition is one of the search anyway, that of the third one is
new. -/
def noteConditions : List (String → Fragment) :=
  [ownedOrShared (some 7),
    fun tableAlias => ⟨.given "note_owner.active = ?" [.bool true],
      some (Template.expand Entity.noteOwnerJoin tableAlias)⟩,
    fun tableAlias => ⟨.given "c.name = ?" [.text "maps"],
      some ("JOIN categories c ON c.note_id = " ++ tableAlias ++ ".note_id")⟩]

theorem compile_required_eq_restrict_notes :
    (∀ build ∈ noteConditions,
        Text.Unpadded (build Entity.notesTarget.tableAlias).condition.text) ∧
      Entity.notesTarget.compile {} { criteria := [{ field := "title", condition := "eq" }] }
          ([activeOnly] ++ noteConditions)
        = (Entity.notesTarget.compile {} { criteria := [{ field := "title", condition := "eq" }] }
            [activeOnly]).restrict (noteConditions.map (· Entity.notesTarget.tableAlias)) := by
  have hunpadded : ∀ build ∈ noteConditions,
      Text.Unpadded (build Entity.notesTarget.tableAlias).condition.text := by
    have hall : (noteConditions.all fun build =>
        let text := (build Entity.notesTarget.tableAlias).condition.text
        Text.trim text == text) = true := by decide +kernel
    intro build hbuild
    exact Text.trim_eq_self_iff.1 (eq_of_beq (List.all_eq_true.1 hall build hbuild))
  exact ⟨hunpadded, Entity.notesTarget.compile_required_eq_restrict {} _ [activeOnly] _ hunpadded⟩

end SearchTarget

end CatalogSearch
