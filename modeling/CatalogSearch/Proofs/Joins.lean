import CatalogSearch.Proofs.Pairing
import Mathlib.Data.List.Nodup

/-!
# The joins of a search

A search joins tables for four reasons: its target always joins them, a handler answers a clause with
a column of a joined table, a required condition needs a join, or a restriction that is put on the
plan later does. The joins of the plan are all these clauses in that order, each one where it is first
given (`firstSeen`), and a clause that a handler declines adds none. Each step adds a join as
`addJoin` does, so all that has to be known is what a sequence of such steps comes to
(`foldl_addJoin_eq`). Both queries have the joins between their `FROM` and their `WHERE`.

The owner of a note and the component of an element are joined by the target and asked for by a
handler with the same template. So however often a request asks for them, there is one join.
-/

namespace CatalogSearch

/-! ### Clauses as they are first given -/

/-- Clauses without empty ones and without those that were given before. -/
def firstSeen (clauses : List String) : List String :=
  (clauses.filter fun c => !c.isEmpty).eraseDups

theorem mem_firstSeen {clauses : List String} {c : String} :
    c ∈ firstSeen clauses ↔ c ∈ clauses ∧ c ≠ "" := by
  rw [firstSeen, List.mem_eraseDups, List.mem_filter]
  simp

theorem firstSeen_append (cs ds : List String) :
    firstSeen (cs ++ ds)
      = firstSeen cs ++ (ds.filter fun c => !c.isEmpty && !cs.contains c).eraseDups := by
  have hnew : (ds.filter fun c => !c.isEmpty).removeAll (cs.filter fun c => !c.isEmpty)
      = ds.filter fun c => !c.isEmpty && !cs.contains c := by
    rw [List.removeAll, List.filter_filter]
    refine List.filter_congr fun c _ => ?_
    by_cases hc : c.isEmpty = true
    · simp [hc]
    · simp [hc, Bool.and_comm]
  rw [firstSeen, List.filter_append, List.eraseDups_append, hnew]
  rfl

theorem firstSeen_append_of_forall {cs ds : List String} (h : ∀ d ∈ ds, d = "" ∨ d ∈ cs) :
    firstSeen (cs ++ ds) = firstSeen cs := by
  have hnone : (ds.filter fun c => !c.isEmpty && !cs.contains c) = [] := by
    rw [List.filter_eq_nil_iff]
    intro d hd
    rcases h d hd with rfl | hmem
    · simp
    · simp [hmem]
  rw [firstSeen_append, hnone, List.eraseDups_nil, List.append_nil]

/-! ### Steps -/

theorem addJoin_firstSeen (cs : List String) (c : String) :
    addJoin (firstSeen cs) c = firstSeen (cs ++ [c]) := by
  rw [addJoin]
  by_cases hskip : c = "" ∨ c ∈ cs
  · have hgiven : ∀ d ∈ [c], d = "" ∨ d ∈ cs := by simpa using hskip
    rw [firstSeen_append_of_forall hgiven, if_pos]
    rcases hskip with rfl | hmem
    · rfl
    · by_cases hempty : c = ""
      · simp [hempty]
      · simp [mem_firstSeen, hmem, hempty]
  · rw [not_or] at hskip
    rw [if_neg (by simp [mem_firstSeen, hskip]), firstSeen_append]
    simp [hskip, List.eraseDups_cons]

/-- What a sequence of joins comes to. Each clause is added where it is first given. -/
theorem foldl_addJoin_firstSeen (cs ds : List String) :
    ds.foldl addJoin (firstSeen cs) = firstSeen (cs ++ ds) := by
  induction ds generalizing cs with
  | nil => rw [List.foldl_nil, List.append_nil]
  | cons d ds ih =>
    rw [List.foldl_cons, addJoin_firstSeen, ih, List.append_assoc, List.singleton_append]

theorem nodup_addJoin {joins : List String} (h : joins.Nodup) (c : String) :
    (addJoin joins c).Nodup := by
  rw [addJoin]
  split
  case isTrue => exact h
  case isFalse hskip =>
    have hnew : c ∉ joins := by
      intro hmem
      simp [hmem] at hskip
    exact List.Nodup.append h (by simp) (by simpa using hnew)

theorem nodup_firstSeen (cs : List String) : (firstSeen cs).Nodup := by
  have hsteps : ∀ joins : List String, joins.Nodup → (cs.foldl addJoin joins).Nodup := by
    induction cs with
    | nil => exact fun joins h => h
    | cons c cs ih => exact fun joins h => ih _ (nodup_addJoin h c)
  have hall := hsteps _ List.nodup_nil
  rwa [show ([] : List String) = firstSeen [] from rfl, foldl_addJoin_firstSeen] at hall

/-! ### The joins of fragments -/

def Fragment.joins (fs : List Fragment) : List String := fs.flatMap (·.join.toList)

theorem Fragment.joins_append (fs gs : List Fragment) : joins (fs ++ gs) = joins fs ++ joins gs :=
  List.flatMap_append

theorem SearchPlan.joins_foldl_restrict (plan : SearchPlan) (fs : List Fragment) :
    (fs.foldl restrict plan).joins = (Fragment.joins fs).foldl addJoin plan.joins := by
  induction fs generalizing plan with
  | nil => rfl
  | cons f fs ih =>
    rw [List.foldl_cons, ih, restrict, Fragment.joins, Fragment.joins, List.flatMap_cons,
      List.foldl_append]

theorem Criterion.plain_joins {c : Criterion} {column : String} {o : Outcome}
    (h : c.plain column = .ok o) : Fragment.joins o.fragment.toList = [] := by
  obtain ⟨r, -, rfl⟩ := exists_of_map_eq_ok h
  cases r <;> rfl

namespace SearchTarget

variable {t : SearchTarget}

theorem plainOutcome_joins {c : Criterion} {o : Outcome} (h : t.plainOutcome c = .ok o) :
    Fragment.joins o.fragment.toList = [] := by
  rw [plainOutcome] at h
  split at h
  case isTrue => exact Criterion.plain_joins h
  case isFalse =>
    obtain ⟨o', hplain, rfl⟩ := exists_of_map_eq_ok h
    show Fragment.joins o'.fragment.toList = []
    exact Criterion.plain_joins hplain

/-- What the handler of a criterion's field answers with, if it has one and does not decline. -/
def handlerFragment (t : SearchTarget) (c : Criterion) : Option Fragment :=
  match t.handlers.lookup c.field with
  | none => none
  | some handler =>
    match handler c t.tableAlias with
    | .error _ => none
    | .ok o => o.fragment

/-- Whatever becomes of a criterion, its join is the one that the handler asks for. -/
theorem outcome_joins {c : Criterion} {o : Outcome} (h : t.outcome c = .ok o) :
    Fragment.joins o.fragment.toList = Fragment.joins (t.handlerFragment c).toList := by
  rw [outcome] at h
  cases hhandler : t.handlers.lookup c.field with
  | none =>
    have hnone : t.handlerFragment c = none := by simp only [handlerFragment, hhandler]
    rw [hhandler] at h
    rw [hnone]
    exact plainOutcome_joins h
  | some handler =>
    simp only [hhandler] at h
    cases hanswer : handler c t.tableAlias with
    | error e =>
      simp only [hanswer] at h
      cases h
    | ok answer =>
      have hanswered : t.handlerFragment c = answer.fragment := by
        simp only [handlerFragment, hhandler, hanswer]
      obtain ⟨notices, fragment⟩ := answer
      rw [hanswered]
      cases fragment with
      | some f =>
        simp only [hanswer] at h
        cases h
        rfl
      | none =>
        -- a declined criterion may still be one on a plain column, which needs no join
        simp only [hanswer] at h
        split at h
        case isTrue =>
          obtain ⟨o', hplain, rfl⟩ := exists_of_map_eq_ok h
          show Fragment.joins o'.fragment.toList = []
          exact plainOutcome_joins hplain
        case isFalse =>
          cases h
          rfl

theorem gather_joins {cs : List Criterion} {fs : List Fragment}
    (h : (Outcome.gather (cs.map t.outcome)).2 = .ok fs) :
    Fragment.joins fs = Fragment.joins (cs.filterMap t.handlerFragment) := by
  induction cs generalizing fs with
  | nil =>
    cases h
    rfl
  | cons c cs ih =>
    rw [List.map_cons] at h
    cases ho : t.outcome c with
    | error e =>
      rw [ho] at h
      cases h
    | ok o =>
      rw [ho] at h
      obtain ⟨gs, hgs, rfl⟩ := exists_of_map_eq_ok h
      rw [Fragment.joins_append, ih hgs, outcome_joins ho, ← Fragment.joins_append,
        List.filterMap_cons]
      cases t.handlerFragment c <;> rfl

/-- The joins of a search and of its restrictions, as they are given one after the other. -/
def givenJoins (t : SearchTarget) (request : SearchRequest) (required : List (String → Fragment))
    (restrictions : List Fragment) (formatted : List String) : List String :=
  formatted ++
    Fragment.joins ((Criterion.ofClauses t.isHandled request.criteria).1.filterMap
      t.handlerFragment) ++
    Fragment.joins (required.map (· t.tableAlias)) ++ Fragment.joins restrictions

theorem joins_of_compile {settings : Settings} {request : SearchRequest}
    {required : List (String → Fragment)} {plan : SearchPlan}
    (h : (t.compile settings request required).result = .ok plan) :
    ∃ formatted, fillTemplates t.extraJoins t.tableAlias = .ok formatted ∧
      plan.joins = firstSeen (t.givenJoins request required [] formatted) := by
  rw [compile] at h
  split at h
  case isTrue => cases h
  case isFalse =>
    cases hformatted : fillTemplates t.extraJoins t.tableAlias with
    | error e =>
      rw [hformatted] at h
      cases h
    | ok formatted =>
      rw [hformatted] at h
      obtain ⟨asked, hasked, h⟩ := exists_of_bind_eq_ok h
      obtain ⟨columns, -, h⟩ := exists_of_bind_eq_ok h
      cases h
      refine ⟨formatted, rfl, ?_⟩
      show (formatted ++ Fragment.joins (asked ++ _)).foldl addJoin (firstSeen []) = _
      rw [foldl_addJoin_firstSeen, Fragment.joins_append, gather_joins hasked, givenJoins]
      simp [Fragment.joins]

end SearchTarget

/-! ### The joins of the two queries -/

/-- A plan whose joins are these clauses, each of them once and none of them empty. Both queries have
them between their tables and their predicates. -/
structure SearchPlan.Joined (plan : SearchPlan) (clauses : List String) : Prop where
  joins : plan.joins = clauses
  nodup : clauses.Nodup
  nonempty : "" ∉ clauses
  source : plan.source = String.intercalate " "
    (("FROM " ++ plan.table ++ " AS " ++ plan.tableAlias) :: clauses ++ plan.whereClause)
  count : plan.countQuery.text = plan.countHead ++ plan.source
  data : plan.dataQuery.text = plan.dataHead ++ plan.source ++ plan.dataTail

theorem SearchPlan.joined_firstSeen {plan : SearchPlan} {clauses : List String}
    (h : plan.joins = firstSeen clauses) : plan.Joined (firstSeen clauses) where
  joins := h
  nodup := nodup_firstSeen clauses
  nonempty := fun hmem => (mem_firstSeen.1 hmem).2 rfl
  source := by rw [source, h]
  count := plan.countQuery_text
  data := plan.dataQuery_text

/-! ### The joins of the four entities -/

namespace Entity

def joins : Entity → List String
  | documents => []
  | notes => ["LEFT JOIN users AS note_owner ON note_owner.user_id = notes_main.owner_user_id"]
  | elements =>
    ["LEFT JOIN signature_components AS element_component ON " ++
      "element_component.signature_component_id = signature_elements_main.signature_component_id"]
  | logs => []

theorem expand_extraJoins (e : Entity) :
    e.target.extraJoins.map (Template.expand · e.target.tableAlias) = e.joins := by
  cases e <;> decide +kernel

theorem fillTemplates_extraJoins (e : Entity) :
    fillTemplates e.target.extraJoins e.target.tableAlias = .ok e.joins := by
  rw [fillTemplates_eq e.target_registers.joins, e.expand_extraJoins]

theorem firstSeen_joins (e : Entity) : firstSeen e.joins = e.joins := by
  cases e <;> decide +kernel

/-- A handler asks for no other join than those that are there anyway. -/
theorem join_mem_of_emits {e : Entity} {field : String} {f : Fragment}
    (h : e.target.Emits e.registry field f) {j : String} (hj : f.join = some j) : j ∈ e.joins := by
  cases h with
  | listed => cases hj
  | bare => cases hj
  | handled hk hanswers =>
    cases hanswers with
    | emptySet => cases hj
    | subquery => cases hj
    | joinedLink => cases e <;> simp [registry] at hk
    | @column joinClause =>
      have htemplate : joinClause ∈ e.target.extraJoins := by
        cases e <;> simp [registry] at hk <;> simp [target, notesTarget, elementsTarget, hk]
      cases hj
      rw [← e.expand_extraJoins]
      exact List.mem_map_of_mem htemplate

theorem compile_joins (e : Entity) (settings : Settings) (request : SearchRequest)
    {required : List (String → Fragment)}
    (hrequired : ∀ build ∈ required, ∀ j ∈ (build e.target.tableAlias).join, j = "" ∨ j ∈ e.joins) :
    ∃ plan, (e.target.compile settings request required).result = .ok plan ∧
      plan.joins = e.joins := by
  refine ⟨_, SearchTarget.compile_registered e.target_registers settings request required, ?_⟩
  show (_ ++ Fragment.joins _).foldl addJoin (firstSeen []) = _
  rw [foldl_addJoin_firstSeen, e.expand_extraJoins, List.nil_append, firstSeen_append_of_forall,
    e.firstSeen_joins]
  intro j hj
  obtain ⟨f, hf, hj⟩ := List.mem_flatMap.1 hj
  rw [Option.mem_toList] at hj
  rcases List.mem_append.1 hf with hf | hf
  · obtain ⟨clause, -, hclause⟩ := List.mem_filterMap.1 hf
    obtain ⟨field, -, hemits⟩ := SearchTarget.clauseFragment_emits e.target_registers hclause
    exact .inr (join_mem_of_emits hemits hj)
  · obtain ⟨build, hbuild, rfl⟩ := List.mem_map.1 hf
    exact hrequired build hbuild j hj

end Entity

/-- The joins of a search. Whatever is searched, asked, required and added by restrictions, the
plan has the joins of the target, of the handlers that answered, of the required conditions and of
the restrictions, each where it is first given, and so have both of its queries. A search for an
entity has the joins of that entity alone, however often its handlers ask for them. -/
theorem SearchTarget.joins_firstSeen :
    (∀ (t : SearchTarget) (settings : Settings) (request : SearchRequest)
      (required : List (String → Fragment)) (compiled : SearchPlan),
      (t.compile settings request required).result = .ok compiled →
      ∃ formatted, fillTemplates t.extraJoins t.tableAlias = .ok formatted ∧
        ∀ restrictions : List Fragment,
          (restrictions.foldl SearchPlan.restrict compiled).Joined
            (firstSeen (t.givenJoins request required restrictions formatted))) ∧
    (∀ (e : Entity) (settings : Settings) (request : SearchRequest)
      (required : List (String → Fragment)),
      (∀ build ∈ required, ∀ j ∈ (build e.target.tableAlias).join, j = "" ∨ j ∈ e.joins) →
      ∃ compiled, (e.target.compile settings request required).result = .ok compiled ∧
        compiled.Joined e.joins) := by
  refine ⟨?_, ?_⟩
  · intro t settings request required compiled hcompiled
    obtain ⟨formatted, hformatted, hjoins⟩ := joins_of_compile hcompiled
    refine ⟨formatted, hformatted, ?_⟩
    intro restrictions
    apply SearchPlan.joined_firstSeen
    rw [SearchPlan.joins_foldl_restrict, hjoins, foldl_addJoin_firstSeen]
    simp [givenJoins, Fragment.joins]
  · intro e settings request required hrequired
    obtain ⟨compiled, hcompiled, hjoins⟩ := e.compile_joins settings request hrequired
    refine ⟨compiled, hcompiled, ?_⟩
    rw [← e.firstSeen_joins]
    apply SearchPlan.joined_firstSeen
    rw [hjoins, e.firstSeen_joins]

def notesOfOwners : SearchRequest where
  criteria :=
    [{ field := "owner_login", condition := "FRAGMENT", value := .text "al" },
      { field := "owner_login", condition := "EQ", value := .text "bob", negate := true }]

def categoryRestrictions : List Fragment :=
  [⟨.given "c.level > ?" [.int 1], some "JOIN categories c ON c.note_id = notes_main.note_id"⟩,
    ⟨.given "c.level < ?" [.int 5], some "JOIN categories c ON c.note_id = notes_main.note_id"⟩]

/-- The owners are joined once, and the categories once behind them. -/
theorem SearchTarget.joins_firstSeen_owners :
    ∃ compiled, (Entity.notes.target.compile {} notesOfOwners [ownedOrShared (some 7)]).result
        = .ok compiled ∧
      compiled.Joined Entity.notes.joins ∧
      (categoryRestrictions.foldl SearchPlan.restrict compiled).Joined
        (Entity.notes.joins ++ ["JOIN categories c ON c.note_id = notes_main.note_id"]) := by
  have hrequired : ∀ build ∈ [ownedOrShared (some 7)],
      ∀ j ∈ (build Entity.notes.target.tableAlias).join, j = "" ∨ j ∈ Entity.notes.joins := by
    simp [ownedOrShared]
  obtain ⟨compiled, hcompiled, hjoined⟩ := joins_firstSeen.2 .notes {} notesOfOwners _ hrequired
  obtain ⟨formatted, hformatted, hrestricted⟩ := joins_firstSeen.1 _ _ _ _ compiled hcompiled
  refine ⟨compiled, hcompiled, hjoined, ?_⟩
  rw [Entity.notes.fillTemplates_extraJoins] at hformatted
  cases hformatted
  have hlist : firstSeen (Entity.notes.target.givenJoins notesOfOwners [ownedOrShared (some 7)]
      categoryRestrictions Entity.notes.joins)
      = Entity.notes.joins ++ ["JOIN categories c ON c.note_id = notes_main.note_id"] := by
    decide +kernel
  rw [← hlist]
  exact hrestricted categoryRestrictions

end CatalogSearch
