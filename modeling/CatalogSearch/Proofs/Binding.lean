import CatalogSearch.Proofs.Protocol

/-!
# What is bound

The store takes null, numbers and texts, but a client can send booleans, arrays and objects too, and
a handler gets the value of its field unchecked. None of them is ever a parameter: every fragment
that a clause comes to holds scalars, and a plan turns the booleans among them into 0 and 1. For a
field that stands for a column, the values that a clause compares it with are parameters of both
queries, in their order.
-/

namespace CatalogSearch

namespace Value

/-- Whether the store takes a value as it is. -/
def isBindable : Value → Bool
  | null | int _ | float _ | text _ => true
  | bool _ | list _ | object _ => false

/-- What the store is given for a value. -/
inductive BindsAs : Value → Value → Prop where
  | no : BindsAs (.bool false) (.int 0)
  | yes : BindsAs (.bool true) (.int 1)
  | same {v : Value} (h : v.isBindable = true) : BindsAs v v

theorem isBindable_bound (v : Value) : v.bound.isBindable = v.isScalar := by cases v <;> rfl

theorem isScalar_bound (v : Value) : v.bound.isScalar = v.isScalar := by cases v <;> rfl

theorem bound_bound (v : Value) : v.bound.bound = v.bound := by cases v <;> rfl

theorem bindsAs_bound {v : Value} (h : v.isScalar = true) : BindsAs v v.bound := by
  cases v with
  | bool b =>
    cases b with
    | false => exact .no
    | true => exact .yes
  | list items => cases h
  | object fields => cases h
  | _ => exact .same rfl

end Value

/-! ### Fragments hold scalars -/

namespace Condition

def HoldsScalars (c : Condition) : Prop := ∀ v ∈ c.parameters, v.isScalar = true

theorem HoldsScalars.negateIf {c : Condition} (h : c.HoldsScalars) (negate : Bool) :
    (negateIf negate c).HoldsScalars := by
  cases negate <;> exact h

theorem holdsScalars_ofEmptySet (negate : Bool) : (ofEmptySet negate).HoldsScalars := by
  cases negate <;> exact nofun

theorem holdsScalars_oneOf_bound (column : String) {vs : List Value}
    (h : ∀ v ∈ vs, v.isScalar = true) : (oneOf column (vs.map Value.bound)).HoldsScalars := by
  intro w hw
  obtain ⟨v, hv, hbound⟩ := List.mem_map.1 hw
  rw [← hbound, Value.isScalar_bound]
  exact h v hv

theorem Tests.holdsScalars {column : String} {c : Condition} (h : Tests column c) :
    c.HoldsScalars := by
  cases h with
  | compare comparison hscalar =>
    intro v hv
    rw [List.mem_singleton.1 hv, Value.isScalar_bound]
    exact hscalar
  | isNull => exact nofun
  | isNullOrEmpty => exact nofun
  | contains part =>
    intro v hv
    rw [List.mem_singleton.1 hv]
    rfl

theorem OnColumn.holdsScalars {column : String} {c : Condition} (h : OnColumn column c) :
    c.HoldsScalars := by
  cases h with
  | test negate h => exact h.holdsScalars.negateIf negate
  | oneOf _ hscalar => exact holdsScalars_oneOf_bound column hscalar
  | noneOf _ hscalar => exact holdsScalars_oneOf_bound column hscalar
  | emptySet negate => exact holdsScalars_ofEmptySet negate

end Condition

theorem isScalar_of_mem_ids {ids : List Int} {v : Value} (h : v ∈ ids.map Value.int) :
    v.isScalar = true := by
  obtain ⟨i, -, hi⟩ := List.mem_map.1 h
  rw [← hi]
  rfl

namespace HandlerKind

theorem Asks.isScalar {tableAlias : String} {k : HandlerKind} {s : Subquery}
    (h : k.Asks tableAlias s) : ∀ v ∈ s.parameters, v.isScalar = true := by
  intro v hv
  cases h with
  | linkedTo => exact isScalar_of_mem_ids hv
  | linked => cases hv
  | pathIs path =>
    rw [List.mem_singleton.1 hv]
    rfl
  | pathUnder =>
    obtain ⟨path, -, hmem⟩ := List.mem_flatMap.1 hv
    simp only [List.mem_cons, List.not_mem_nil, or_false] at hmem
    obtain hv | hv := hmem
    · rw [hv]
      rfl
    · rw [hv]
      rfl

theorem Answers.holdsScalars {tableAlias : String} {k : HandlerKind} {f : Fragment}
    (h : k.Answers tableAlias f) : f.condition.HoldsScalars := by
  cases h with
  | emptySet negate => exact Condition.holdsScalars_ofEmptySet negate
  | subquery negate h => cases negate <;> exact h.isScalar
  | joinedLink => exact fun v hv => isScalar_of_mem_ids hv
  | column h => exact h.holdsScalars

/-- Whether a handler does no more than to compare a column. -/
def comparesColumn : HandlerKind → Bool
  | joinedColumn .. => true
  | _ => false

end HandlerKind

theorem SearchTarget.Emits.holdsScalars {t : SearchTarget} {r : Registry} {field : String}
    {f : Fragment} (h : t.Emits r field f) : f.condition.HoldsScalars := by
  cases h with
  | handled _ h => exact h.holdsScalars
  | listed _ _ h => exact h.holdsScalars
  | bare _ _ _ h => exact h.holdsScalars

theorem Entity.required_holdsScalars {e : Entity} {asked : SearchRequest} {p : Principal}
    {allowed : Allowed} (hallowed : e.allow asked p = .ok allowed) {build : String → Fragment}
    (hbuild : build ∈ allowed.required) :
    (build e.target.tableAlias).condition.HoldsScalars := by
  intro v hv
  obtain ⟨rfl, hactive⟩ | ⟨rfl, user, howned⟩ := required_cases hallowed hbuild
  · rw [hactive] at hv
    rw [List.mem_singleton.1 hv]
    rfl
  · rw [howned] at hv
    change v ∈ [Value.int _, Value.bool true] at hv
    simp only [List.mem_cons, List.not_mem_nil, or_false] at hv
    obtain hv | hv := hv
    · rw [hv]
      rfl
    · rw [hv]
      rfl

theorem Predicate.isBindable_trimmed {c : Condition} (h : c.HoldsScalars) :
    ∀ v ∈ (trimmed c).parameters, v.isBindable = true := by
  intro w hw
  obtain ⟨v, hv, hbound⟩ := List.mem_map.1 hw
  rw [← hbound, Value.isBindable_bound]
  exact h v hv

/-! ### What a column is compared with -/

/-- The values with which a column is compared, when an operator accepts a value. -/
def Operator.compared : Operator → Value → List Value
  | .anyOf, .list vs => vs
  | .contains, .text part => [.text ("%" ++ part ++ "%")]
  | .isEmpty, _ => []
  | .equal, .null => []
  | _, v => [v]

/-- The values with which a clause compares a column, if its condition is known. -/
def Clause.compared (clause : Clause) : List Value :=
  (Operator.ofCondition? clause.condition).elim [] (·.compared clause.value)

/-- Whether a field stands for a column, with or without a join. -/
def Entity.comparesColumn (e : Entity) (field : Text) : Bool :=
  (field.string?.bind (List.lookup · e.registry)).all HandlerKind.comparesColumn

theorem Operator.compared_of_comparison? {op : Operator} {comparison : Comparison} {v : Value}
    (hop : op.comparison? = some comparison) (hnull : op = .equal → v = .null → False) :
    op.compared v = [v] := by
  cases op with
  | equal =>
    cases v with
    | null => exact (hnull rfl rfl).elim
    | _ => rfl
  | greaterThan | greaterOrEqual | lessThan | lessOrEqual => rfl
  | anyOf | contains | isEmpty | other => cases hop

theorem Condition.parameters_negateIf (negate : Bool) (c : Condition) :
    (negateIf negate c).parameters = c.parameters := by
  cases negate <;> rfl

namespace Criterion

theorem parameters_plainCondition {c : Criterion} {column : String} {d : Condition}
    (h : c.plainCondition column = .ok (.ok d)) :
    d.parameters = (c.operator.compared c.value).map Value.bound := by
  obtain ⟨field, op, value, negate⟩ := c
  rw [plainCondition] at h
  split at h
  case isTrue => split at h <;> cases h
  case isFalse =>
    have hd := Except.ok.inj h
    dsimp only at hd ⊢
    split at hd
    case h_1 =>
      cases hd
      cases negate <;> rfl
    case h_2 vs _ _ _ =>
      split at hd
      case isTrue =>
        cases hd
        cases negate <;> rfl
      case isFalse => cases hd
    case h_3 part _ _ =>
      cases hd
      rw [Condition.parameters_negateIf]
      rfl
    case h_4 =>
      cases hd
      rw [Condition.parameters_negateIf]
      rfl
    case h_5 =>
      cases hd
      rw [Condition.parameters_negateIf]
      rfl
    case h_6 hnull =>
      split at hd
      case h_1 comparison hcomparison =>
        cases hd
        rw [Condition.parameters_negateIf, Operator.compared_of_comparison? hcomparison hnull]
        rfl
      case h_2 => cases hd

theorem parameters_plain {c : Criterion} {column : String} {o : Outcome} {f : Fragment}
    (h : c.plain column = .ok o) (hf : o.fragment = some f) :
    f.condition.parameters = (c.operator.compared c.value).map Value.bound := by
  obtain ⟨r, hr, ho⟩ := exists_of_map_eq_ok h
  rw [← ho] at hf
  cases r with
  | error notice => cases hf
  | ok d =>
    cases hf
    exact parameters_plainCondition hr

end Criterion

theorem Handler.parameters_joinedColumn {joinClause column tableAlias : String} {c : Criterion}
    {o : Outcome} {f : Fragment} (h : Handler.joinedColumn joinClause column c tableAlias = .ok o)
    (hf : o.fragment = some f) :
    f.condition.parameters = (c.operator.compared c.value).map Value.bound := by
  obtain ⟨plain, hplain, h⟩ := exists_of_bind_eq_ok h
  split at h
  case h_1 hnone =>
    cases h
    cases hnone.symm.trans hf
  case h_2 g hg =>
    split at h
    case h_1 =>
      cases h
      cases hf
      have hparameters := Criterion.parameters_plain hplain hg
      exact hparameters
    case h_2 => cases h

namespace SearchTarget

variable {t : SearchTarget} {r : Registry}

theorem parameters_plainOutcome {c : Criterion} {o : Outcome} {f : Fragment}
    (h : t.plainOutcome c = .ok o) (hf : o.fragment = some f) :
    f.condition.parameters = (c.operator.compared c.value).map Value.bound := by
  rw [plainOutcome] at h
  split at h
  case isTrue => exact Criterion.parameters_plain h hf
  case isFalse =>
    obtain ⟨plain, hplain, ho⟩ := exists_of_map_eq_ok h
    rw [← ho] at hf
    exact Criterion.parameters_plain hplain hf

/-- A criterion on a field that stands for a column comes to a condition with the values that it
compares the column with. -/
theorem parameters_outcome (hr : t.Registers r) {c : Criterion} {o : Outcome} {f : Fragment}
    (hfield : (r.lookup c.field).all HandlerKind.comparesColumn = true) (h : t.outcome c = .ok o)
    (hf : o.fragment = some f) :
    f.condition.parameters = (c.operator.compared c.value).map Value.bound := by
  rw [outcome, hr.handlers, r.lookup_handlers] at h
  cases hk : r.lookup c.field with
  | none =>
    rw [hk] at h
    exact parameters_plainOutcome h hf
  | some k =>
    rw [hk] at h hfield
    cases k with
    | linkedToAny => cases hfield
    | hasLinked => cases hfield
    | storedPaths => cases hfield
    | joinedColumn joinClause column =>
      dsimp only [Option.map_some] at h
      split at h
      case h_1 => cases h
      case h_2 hhandler =>
        cases h
        exact Handler.parameters_joinedColumn hhandler hf
      case h_3 =>
        -- a handler that declines leaves the criterion to a column of the field's own name
        split at h
        case isTrue =>
          obtain ⟨plain, hplain, ho⟩ := exists_of_map_eq_ok h
          rw [← ho] at hf
          exact parameters_plainOutcome hplain hf
        case isFalse =>
          cases h
          cases hf

theorem parameters_clauseFragment (hr : t.Registers r) {clause : Clause} {f : Fragment}
    (hfield : (clause.field.string?.bind (List.lookup · r)).all HandlerKind.comparesColumn = true)
    (hf : t.clauseFragment clause = some f) :
    f.condition.parameters = clause.compared.map Value.bound := by
  rw [clauseFragment, clauseOutcome] at hf
  cases hc : clause.toCriterion (clause.field.string?.any t.isHandled) with
  | error n =>
    rw [hc] at hf
    cases hf
  | ok c =>
    obtain ⟨hop, hname, -, hvalue, -⟩ := Clause.toCriterion_eq_ok hc
    rw [hname, Text.string?_ofString, Option.bind_some] at hfield
    rw [hc] at hf
    dsimp only at hf
    rw [Clause.compared, hop, ← hvalue]
    cases ho : t.outcome c with
    | error failure =>
      rw [ho] at hf
      cases hf
    | ok o =>
      rw [ho] at hf
      exact parameters_outcome hr hfield ho hf

end SearchTarget

namespace Entity

/-- Where a clause compares a column, its values are handed to the store one by one. -/
theorem bindsAs_clauseFragment {e : Entity} {clause : Clause} {f : Fragment}
    (hfield : e.comparesColumn clause.field = true)
    (hf : e.target.clauseFragment clause = some f) :
    List.Forall₂ Value.BindsAs clause.compared (Predicate.trimmed f.condition).parameters := by
  obtain ⟨field, -, hemits⟩ := SearchTarget.clauseFragment_emits e.target_registers hf
  have hparameters := SearchTarget.parameters_clauseFragment e.target_registers hfield hf
  have hbound : (Predicate.trimmed f.condition).parameters = clause.compared.map Value.bound := by
    rw [Predicate.trimmed, hparameters, List.map_map]
    exact List.map_congr_left fun v _ => v.bound_bound
  rw [hbound, List.forall₂_map_right_iff, List.forall₂_same]
  intro v hv
  apply Value.bindsAs_bound
  rw [← Value.isScalar_bound]
  apply hemits.holdsScalars
  rw [hparameters]
  exact List.mem_map_of_mem hv

theorem compile_fragments {e : Entity} {settings : Settings} {allowed : Allowed}
    {plan : SearchPlan}
    (hplan : (e.compile settings allowed.request allowed.required).result = .ok plan) :
    plan.predicates = (allowed.request.criteria.filterMap e.target.clauseFragment ++
      allowed.required.map (· e.target.tableAlias)).map fun f => .trimmed f.condition := by
  cases hplan.symm.trans (e.compile_eq_compiled settings allowed)
  rfl

theorem isBindable_filterParameters {e : Entity} {settings : Settings} {request : SearchRequest}
    {p : Principal} {allowed : Allowed} {plan : SearchPlan}
    (hallowed : e.allow request p = .ok allowed)
    (hplan : (e.compile settings allowed.request allowed.required).result = .ok plan) :
    ∀ v ∈ plan.filterParameters, v.isBindable = true := by
  intro v hv
  obtain ⟨predicate, hpredicate, hmem⟩ := List.mem_flatMap.1 hv
  rw [compile_fragments hplan] at hpredicate
  obtain ⟨f, hf, htrimmed⟩ := List.mem_map.1 hpredicate
  rw [← htrimmed] at hmem
  refine Predicate.isBindable_trimmed ?_ v hmem
  -- the fragment was asked for by a clause, or it is there for whoever searches
  obtain hasked | hrequired := List.mem_append.1 hf
  · obtain ⟨clause, -, hclause⟩ := List.mem_filterMap.1 hasked
    obtain ⟨field, -, hemits⟩ := SearchTarget.clauseFragment_emits e.target_registers hclause
    exact hemits.holdsScalars
  · obtain ⟨build, hbuild, hfragment⟩ := List.mem_map.1 hrequired
    rw [← hfragment]
    exact required_holdsScalars hallowed hbuild

/-- The values of an accepted clause stand together among those of the plan. -/
theorem infix_filterParameters {e : Entity} {settings : Settings} {allowed : Allowed}
    {plan : SearchPlan}
    (hplan : (e.compile settings allowed.request allowed.required).result = .ok plan)
    {clause : Clause} (hclause : clause ∈ allowed.request.criteria) {f : Fragment}
    (hf : e.target.clauseFragment clause = some f) :
    (Predicate.trimmed f.condition).parameters <:+: plan.filterParameters := by
  have hmem : Predicate.trimmed f.condition ∈ plan.predicates := by
    rw [compile_fragments hplan]
    exact List.mem_map.2
      ⟨f, List.mem_append_left _ (List.mem_filterMap.2 ⟨clause, hclause, hf⟩), rfl⟩
  exact List.infix_of_mem_flatten (List.mem_map_of_mem hmem)

theorem isBindable_append_ints {vs : List Value} (h : ∀ v ∈ vs, v.isBindable = true)
    (size offset : Int) : ∀ v ∈ vs ++ [.int size, .int offset], v.isBindable = true := by
  intro v hv
  obtain hv | hv := List.mem_append.1 hv
  · exact h v hv
  · simp only [List.mem_cons, List.not_mem_nil, or_false] at hv
    obtain hv | hv := hv
    · rw [hv]
      rfl
    · rw [hv]
      rfl

/-- Only scalars that the store knows are bound. Whoever comes without a subject or with one
that is text is allowed a plan. Every parameter of its two queries is null, a number or a text. The
values with which an accepted clause compares a column are among them, in their order, each boolean
as 0 or 1. What reaches the store of the two queries has no other parameters either. -/
theorem search_binds (e : Entity) (settings : Settings) (request : SearchRequest) {p : Principal}
    (hsub : p.claim "sub" = .null ∨ ∃ t, p.claim "sub" = .text t) :
    ∃ allowed plan, e.allow request p = .ok allowed ∧
      (e.compile settings allowed.request allowed.required).result = .ok plan ∧
      (∀ q ∈ [plan.countQuery, plan.dataQuery], ∀ v ∈ q.parameters, v.isBindable = true) ∧
      (∀ clause ∈ allowed.request.criteria, (e.target.clauseFragment clause).isSome = true →
        e.comparesColumn clause.field = true →
          ∃ bound, List.Forall₂ Value.BindsAs clause.compared bound ∧
            ∀ q ∈ [plan.countQuery, plan.dataQuery], bound <:+: q.parameters) ∧
      (e.search settings request p).Sends fun _ sent =>
        ∀ q ∈ sent.take 2, ∀ v ∈ q.parameters, v.isBindable = true := by
  obtain ⟨allowed, hallowed⟩ := exists_allow hsub e request
  obtain ⟨plan, hplan, -⟩ := exists_plan hallowed settings
  have hfilters := isBindable_filterParameters hallowed hplan
  refine ⟨allowed, plan, hallowed, hplan, ?_, ?_, ?_⟩
  · simp only [List.forall_mem_cons, List.not_mem_nil, false_implies, implies_true, and_true]
    exact ⟨hfilters, isBindable_append_ints hfilters _ _⟩
  · intro clause hclause haccepted hfield
    obtain ⟨f, hf⟩ := Option.isSome_iff_exists.1 haccepted
    have hwithin := infix_filterParameters hplan hclause hf
    refine ⟨_, bindsAs_clauseFragment hfield hf, ?_⟩
    simp only [List.forall_mem_cons, List.not_mem_nil, false_implies, implies_true, and_true]
    exact ⟨hwithin, hwithin.trans (List.prefix_append _ _).isInfix⟩
  · refine (search_sends e settings request p).mono ?_
    intro r sent hsent
    obtain hnone | ⟨allowed', plan', hallowed', hplan', related, -, -, hprefix⟩ := hsent
    · rw [hnone]
      exact nofun
    · cases hallowed.symm.trans hallowed'
      cases hplan.symm.trans hplan'
      intro q hq
      have hshort : sent.take 2 <+: [plan.countQuery, plan.sentQuery settings] :=
        List.prefix_of_prefix_length_le ((List.take_prefix 2 sent).trans hprefix) ⟨related, rfl⟩
          (List.length_take_le 2 sent)
      have htwo := hshort.subset hq
      simp only [List.mem_cons, List.not_mem_nil, or_false] at htwo
      obtain hcount | hdata := htwo
      · rw [hcount]
        exact hfilters
      · obtain ⟨-, size, offset, hparameters⟩ := plan.sentQuery_eq settings
        rw [hdata, hparameters]
        exact isBindable_append_ints hfilters size offset

/-- The user 7 asks for notes that are shared or not, and for those of an owner whose login is a
boolean. -/
theorem search_binds_notes :
    (Principal.claim [("sub", .text "7")] "sub" = .null ∨
        ∃ t, Principal.claim [("sub", .text "7")] "sub" = .text t) ∧
      ∃ plan,
        (notes.compile {}
          { criteria :=
              [{ field := "shared", condition := "ANY_OF",
                  value := .list [.bool true, .bool false] },
                { field := "owner_login", condition := "EQ", value := .bool true }] }
          [ownedOrShared (some 7)]).result = .ok plan ∧
        (∀ v ∈ plan.dataQuery.parameters, v.isBindable = true) ∧
        [.int 1, .int 0] <:+: plan.dataQuery.parameters ∧
        [.int 1] <:+: plan.dataQuery.parameters := by
  have hsub : Principal.claim [("sub", .text "7")] "sub" = .null ∨
      ∃ t, Principal.claim [("sub", .text "7")] "sub" = .text t := Or.inr ⟨_, rfl⟩
  refine ⟨hsub, ?_⟩
  obtain ⟨allowed, plan, hallowed, hplan, hbindable, hbinds, -⟩ :=
    search_binds notes {}
      { criteria :=
          [{ field := "shared", condition := "ANY_OF", value := .list [.bool true, .bool false] },
            { field := "owner_login", condition := "EQ", value := .bool true }] } hsub
  cases hallowed
  refine ⟨plan, hplan, hbindable plan.dataQuery (by simp), ?_, ?_⟩
  · obtain ⟨bound, hbound, hwithin⟩ := hbinds _ List.mem_cons_self (by decide) (by decide)
    have hvalues : bound = [.int 1, .int 0] := by
      cases hbound with
      | cons hfirst hrest =>
        cases hfirst with
        | yes =>
          cases hrest with
          | cons hsecond hnone =>
            cases hsecond with
            | no =>
              cases hnone
              rfl
            | same h => cases h
        | same h => cases h
    rw [← hvalues]
    exact hwithin plan.dataQuery (by simp)
  · obtain ⟨bound, hbound, hwithin⟩ :=
      hbinds _ (List.mem_cons_of_mem _ List.mem_cons_self) (by decide) (by decide)
    have hvalues : bound = [.int 1] := by
      cases hbound with
      | cons hfirst hnone =>
        cases hnone
        cases hfirst with
        | yes => rfl
        | same h => cases h
    rw [← hvalues]
    exact hwithin plan.dataQuery (by simp)

end Entity

end CatalogSearch
