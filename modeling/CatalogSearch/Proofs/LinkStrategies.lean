import CatalogSearch.Proofs.Conjuncts
import Mathlib.Data.List.Basic

/-!
# Two ways to ask for linked rows

Membership over a link table is asked by subqueries or by joining the table. A subquery looks for a
link row of its own, but a plan has each join clause once, so all criteria that ask by the join test
the same link row. With `∃` for the link row and `∀` for the criteria, one way reads `∀ ∃` and the
other `∃ ∀` (`LinkTable.selects_exists`, `LinkTable.selects_join`). They agree on all contents of
the link table just when one of the id sets that are asked for lies within all of them, as a single
one does (`LinkTable.strategies_agree_iff`).
-/

namespace CatalogSearch

structure LinkRow where
  owner : Int
  target : Int

structure LinkTable where
  table : String
  owner : String
  target : String
  key : String

/-- Whether a key is linked to any of some ids. -/
def Linked (content : List LinkRow) (k : Int) (ids : List Int) : Prop :=
  ∃ row ∈ content, row.owner = k ∧ row.target ∈ ids

namespace LinkTable

def handler (l : LinkTable) (strategy : LinkStrategy) : Handler :=
  .linkedToAny l.table l.owner l.target l.key strategy

def rows (l : LinkTable) (tableAlias : String) : LinkedRows :=
  ⟨l.table, l.owner, tableAlias, l.key⟩

def join (l : LinkTable) (tableAlias : String) : String :=
  HandlerKind.linkJoin l.table l.owner l.key tableAlias

def column (l : LinkTable) : String := l.table ++ "_any" ++ "." ++ l.target

/-- What a condition over the link table says, given what the table holds, the key of the searched
row and the link row that is chosen for the join. Other conditions are not read. -/
def Holds (l : LinkTable) (tableAlias : String) (content : List LinkRow) (k : Int)
    (chosen : LinkRow) : Condition → Prop
  | .nothing => False
  | .everything => True
  | .oneOf column vs => column = l.column ∧ .int chosen.target ∈ vs
  | .subquery (.linkedTo rows target ids) =>
    rows = l.rows tableAlias ∧ target = l.target ∧ Linked content k ids
  | .noSubquery (.linkedTo rows target ids) =>
    rows = l.rows tableAlias ∧ target = l.target ∧ ¬Linked content k ids
  | _ => False

/-- Whether a plan selects the searched row of a key: if the plan joins the link table, a link row of
that key can be chosen, and all predicates hold. -/
def Selects (l : LinkTable) (plan : SearchPlan) (content : List LinkRow) (k : Int) : Prop :=
  ∃ chosen, (l.join plan.tableAlias ∈ plan.joins → chosen ∈ content ∧ chosen.owner = k) ∧
    ∀ p ∈ plan.predicates, l.Holds plan.tableAlias content k chosen p.condition

end LinkTable

/-- A target with one more field, which is asked over a link table. -/
def SearchTarget.linked (t : SearchTarget) (field : String) (l : LinkTable)
    (strategy : LinkStrategy) : SearchTarget :=
  { t with handlers := (field, l.handler strategy) :: t.handlers }

namespace Clause

/-- The ids that a clause lists. A value that is no array lists none, and its clause is skipped. -/
def ids? (c : Clause) : Option (List Int) :=
  match c.value with
  | .list vs => some (positiveIds vs)
  | _ => none

/-- The id sets that are asked for. -/
def wanted (clauses : List Clause) : List (List Int) :=
  clauses.filterMap fun c => if c.negate then none else c.ids?

/-- The id sets that are ruled out. -/
def barred (clauses : List Clause) : List (List Int) :=
  clauses.filterMap fun c => if c.negate then c.ids? else none

structure AsksAnyOf (c : Clause) (field : String) : Prop where
  field : c.field = Text.ofString field
  condition : Operator.ofCondition? c.condition = some .anyOf

end Clause

/-! ### What becomes of a clause -/

namespace LinkTable

variable {l : LinkTable} {t : SearchTarget} {field : String} {strategy : LinkStrategy}

def fragment (l : LinkTable) (strategy : LinkStrategy) (tableAlias : String) (negate : Bool)
    (ids : List Int) : Fragment :=
  if ids.isEmpty then ⟨.ofEmptySet negate, none⟩
  else if strategy = .join ∧ negate = false then
    ⟨.oneOf l.column (ids.map .int), some (l.join tableAlias)⟩
  else ⟨.ofSubquery negate (.linkedTo (l.rows tableAlias) l.target ids), none⟩

theorem handler_list (vs : List Value) (negate : Bool) (tableAlias : String) :
    l.handler strategy ⟨field, .anyOf, .list vs, negate⟩ tableAlias
      = .ok ⟨[], some (l.fragment strategy tableAlias negate (positiveIds vs))⟩ := by
  rw [handler, Handler.linkedToAny, fragment]
  dsimp only
  split
  case isTrue => rfl
  case isFalse =>
    split
    case isTrue => rfl
    case isFalse => rfl

theorem handler_other {v : Value} (hv : ∀ vs, v ≠ .list vs) (negate : Bool) (tableAlias : String) :
    l.handler strategy ⟨field, .anyOf, v, negate⟩ tableAlias = .ok {} := by
  cases v with
  | list vs => exact absurd rfl (hv vs)
  | _ => rfl

theorem plainOutcome_other {v : Value} (hv : ∀ vs, v ≠ .list vs) (negate : Bool) :
    ∃ notices, t.plainOutcome ⟨field, .anyOf, v, negate⟩ = .ok ⟨notices, none⟩ := by
  have hfits : Operator.anyOf.fits v = false := by
    cases v with
    | list vs => exact absurd rfl (hv vs)
    | _ => rfl
  have hop : Operator.anyOf ∈ Operator.all := by decide
  have hplain := Criterion.plain_of_unfit (c := ⟨field, .anyOf, v, negate⟩) hop hfits
  rw [SearchTarget.plainOutcome]
  split
  · exact ⟨_, hplain _⟩
  · exact ⟨_, by rw [hplain]; rfl⟩

/-- A clause that lists ids comes to a fragment, and any other is skipped. -/
theorem clauseOutcome_asked (hfield : isIdentifier field = true)
    (hlookup : t.handlers.lookup field = some (l.handler strategy)) {c : Clause}
    (hc : c.AsksAnyOf field) :
    ∃ notices, t.clauseOutcome c
      = .ok ⟨notices, c.ids?.map (l.fragment strategy t.tableAlias c.negate)⟩ := by
  have hstring : c.field.string? = some field := by rw [hc.field, Text.string?_ofString]
  have hhandled : t.isHandled field = true := by
    rw [SearchTarget.isHandled, hlookup]
    rfl
  have hcriterion : c.toCriterion true = .ok ⟨field, .anyOf, c.value, c.negate⟩ := by
    rw [Clause.toCriterion, hc.condition, Text.identifier?, hstring]
    simp [Option.filter, hfield]
  rw [SearchTarget.clauseOutcome, hstring, Option.any_some, hhandled, hcriterion]
  dsimp only
  rw [SearchTarget.outcome, hlookup]
  dsimp only
  by_cases hlist : ∃ vs, c.value = .list vs
  · obtain ⟨vs, hvs⟩ := hlist
    have hids : c.ids? = some (positiveIds vs) := by rw [Clause.ids?, hvs]
    rw [hids, hvs, handler_list]
    exact ⟨_, rfl⟩
  · have hother : ∀ vs, c.value ≠ .list vs := fun vs hvs => hlist ⟨vs, hvs⟩
    have hids : c.ids? = none := by
      rw [Clause.ids?]
      split
      case h_1 vs hvs => exact absurd hvs (hother vs)
      case h_2 => rfl
    obtain ⟨notices, hplain⟩ : ∃ notices, t.plainOutcome ⟨field, .anyOf, c.value, c.negate⟩
        = .ok ⟨notices, none⟩ :=
      plainOutcome_other hother c.negate
    rw [hids, handler_other hother]
    dsimp only
    split
    · exact ⟨_, by rw [hplain]; rfl⟩
    · exact ⟨_, rfl⟩

theorem clauseOutcome_linked (hfield : isIdentifier field = true) {c : Clause}
    (hc : c.AsksAnyOf field) :
    ∃ notices, (t.linked field l strategy).clauseOutcome c
      = .ok ⟨notices, c.ids?.map (l.fragment strategy t.tableAlias c.negate)⟩ := by
  have hlookup : (t.linked field l strategy).handlers.lookup field = some (l.handler strategy) := by
    simp [SearchTarget.linked]
  exact clauseOutcome_asked hfield hlookup hc

/-! ### What the fragments say -/

section

variable {content : List LinkRow} {k : Int} {chosen : LinkRow} {tableAlias : String}
  {negate : Bool} {ids : List Int}

theorem not_linked_nil : ¬Linked content k [] := by
  rintro ⟨row, -, -, h⟩
  cases h

theorem holds_fragment_barred :
    l.Holds tableAlias content k chosen (l.fragment strategy tableAlias true ids).condition ↔
      ¬Linked content k ids := by
  rw [fragment]
  split
  case isTrue h =>
    rw [List.isEmpty_iff.1 h]
    exact iff_of_true trivial not_linked_nil
  case isFalse =>
    rw [if_neg (by simp)]
    exact ⟨fun h => h.2.2, fun h => ⟨rfl, rfl, h⟩⟩

theorem holds_fragment_exists :
    l.Holds tableAlias content k chosen (l.fragment .exists_ tableAlias false ids).condition ↔
      Linked content k ids := by
  rw [fragment]
  split
  case isTrue h =>
    rw [List.isEmpty_iff.1 h]
    exact iff_of_false id not_linked_nil
  case isFalse =>
    rw [if_neg (by simp)]
    exact ⟨fun h => h.2.2, fun h => ⟨rfl, rfl, h⟩⟩

theorem holds_fragment_join :
    l.Holds tableAlias content k chosen (l.fragment .join tableAlias false ids).condition ↔
      chosen.target ∈ ids := by
  rw [fragment]
  split
  case isTrue h =>
    rw [List.isEmpty_iff.1 h]
    exact iff_of_false id (by simp)
  case isFalse =>
    rw [if_pos (by simp)]
    simp [Holds]

end

/-! ### Plans -/

def plan (l : LinkTable) (t : SearchTarget) (field : String) (strategy : LinkStrategy)
    (settings : Settings) (request : SearchRequest) (joins columns : List String) : SearchPlan :=
  (t.linked field l strategy).plan (SearchTarget.pageWindow settings request) joins
    (request.criteria.filterMap fun c => c.ids?.map (l.fragment strategy t.tableAlias c.negate))
    columns

theorem compile_linked (htable : isIdentifier t.table = true) (hfield : isIdentifier field = true)
    {joins columns : List String} (hjoins : fillTemplates t.extraJoins t.tableAlias = .ok joins)
    (hcolumns : fillTemplates t.extraColumns t.tableAlias = .ok columns) (settings : Settings)
    {request : SearchRequest} (hclauses : ∀ c ∈ request.criteria, c.AsksAnyOf field) :
    ((t.linked field l strategy).compile settings request []).result
      = .ok (l.plan t field strategy settings request joins columns) := by
  have hfragments : request.criteria.filterMap (t.linked field l strategy).clauseFragment
      = request.criteria.filterMap fun c =>
          c.ids?.map (l.fragment strategy t.tableAlias c.negate) := by
    apply List.filterMap_congr
    intro c hc
    obtain ⟨notices, houtcome⟩ := clauseOutcome_linked hfield (hclauses c hc)
    exact SearchTarget.clauseFragment_eq houtcome
  rw [(t.linked field l strategy).compile_result settings request [] htable hjoins hcolumns,
    hfragments, List.map_nil, List.append_nil]
  · rfl
  · intro c hc
    obtain ⟨notices, houtcome⟩ := clauseOutcome_linked hfield (hclauses c hc)
    exact ⟨_, houtcome⟩

end LinkTable

namespace Clause

variable {clauses : List Clause} {ids : List Int}

theorem mem_wanted_iff :
    ids ∈ wanted clauses ↔ ∃ c ∈ clauses, c.negate = false ∧ c.ids? = some ids := by
  simp only [wanted, List.mem_filterMap, Option.ite_none_left_eq_some, Bool.not_eq_true]

theorem mem_barred_iff :
    ids ∈ barred clauses ↔ ∃ c ∈ clauses, c.negate = true ∧ c.ids? = some ids := by
  simp only [barred, List.mem_filterMap, Option.ite_none_right_eq_some]

theorem forall_ids_iff {P : Bool → List Int → Prop} :
    (∀ c ∈ clauses, ∀ ids, c.ids? = some ids → P c.negate ids) ↔
      (∀ ids ∈ wanted clauses, P false ids) ∧ ∀ ids ∈ barred clauses, P true ids := by
  constructor
  · intro h
    constructor
    · intro ids hmem
      obtain ⟨c, hc, hnegate, hids⟩ := mem_wanted_iff.1 hmem
      rw [← hnegate]
      exact h c hc ids hids
    · intro ids hmem
      obtain ⟨c, hc, hnegate, hids⟩ := mem_barred_iff.1 hmem
      rw [← hnegate]
      exact h c hc ids hids
  · rintro ⟨hwanted, hbarred⟩ c hc ids hids
    cases hnegate : c.negate with
    | false => exact hwanted ids (mem_wanted_iff.2 ⟨c, hc, hnegate, hids⟩)
    | true => exact hbarred ids (mem_barred_iff.2 ⟨c, hc, hnegate, hids⟩)

end Clause

theorem mem_foldl_addJoin {j : String} (hj : j ≠ "") {clauses joins : List String}
    (h : j ∈ joins ∨ j ∈ clauses) : j ∈ clauses.foldl addJoin joins := by
  induction clauses generalizing joins with
  | nil => simpa using h
  | cons c cs ih =>
    have hstep : j ∈ joins ∨ j = c → j ∈ addJoin joins c := by
      intro hmem
      rw [addJoin]
      split
      case isTrue hskip =>
        rw [Bool.or_eq_true, String.isEmpty_iff, List.contains_iff_mem] at hskip
        rcases hmem with hmem | rfl
        · exact hmem
        · exact hskip.resolve_left hj
      case isFalse => simpa using hmem
    rw [List.mem_cons, ← or_assoc] at h
    exact ih (h.imp_left hstep)

namespace LinkTable

variable {l : LinkTable} {t : SearchTarget} {field : String} {settings : Settings}
  {request : SearchRequest} {joins columns : List String} {content : List LinkRow} {k : Int}

theorem join_ne_empty (l : LinkTable) (tableAlias : String) : l.join tableAlias ≠ "" := by
  -- the clause is not closed, so it is told from the empty text by its length
  unfold join HandlerKind.linkJoin
  intro h
  have hlength := congrArg String.length h
  simp only [String.length_append] at hlength
  have hword : "INNER JOIN ".length = 11 := by decide
  have hempty : "".length = 0 := by decide
  omega

theorem fragment_join {strategy : LinkStrategy} {tableAlias : String} {negate : Bool}
    {ids : List Int} {j : String} :
    (l.fragment strategy tableAlias negate ids).join = some j ↔
      l.join tableAlias = j ∧ ids ≠ [] ∧ strategy = .join ∧ negate = false := by
  rw [fragment]
  split
  case isTrue h => simp [List.isEmpty_iff.1 h]
  case isFalse h =>
    rw [List.isEmpty_iff] at h
    split
    case isTrue hjoin => simp [h, hjoin]
    case isFalse hjoin => simp [hjoin]

theorem mem_fragments_iff {strategy : LinkStrategy} {f : Fragment} :
    (f ∈ request.criteria.filterMap fun c =>
        c.ids?.map (l.fragment strategy t.tableAlias c.negate)) ↔
      ∃ c ∈ request.criteria, ∃ ids, c.ids? = some ids ∧
        l.fragment strategy t.tableAlias c.negate ids = f := by
  simp only [List.mem_filterMap, Option.map_eq_some_iff]

theorem forall_predicates_iff {strategy : LinkStrategy} {P : Condition → Prop} :
    (∀ p ∈ (l.plan t field strategy settings request joins columns).predicates, P p.condition) ↔
      (∀ ids ∈ Clause.wanted request.criteria,
        P (l.fragment strategy t.tableAlias false ids).condition) ∧
      ∀ ids ∈ Clause.barred request.criteria,
        P (l.fragment strategy t.tableAlias true ids).condition := by
  rw [← Clause.forall_ids_iff (P := fun negate ids =>
    P (l.fragment strategy t.tableAlias negate ids).condition)]
  rw [plan, SearchTarget.plan]
  dsimp only
  rw [List.forall_mem_map]
  constructor
  · intro h c hc ids hids
    exact h _ (mem_fragments_iff.2 ⟨c, hc, ids, hids, rfl⟩)
  · intro h f hf
    obtain ⟨c, hc, ids, hids, rfl⟩ := mem_fragments_iff.1 hf
    exact h c hc ids hids

/-- Only id sets that are asked for by the join bring the join, and those that are not empty do. -/
theorem join_mem_iff {strategy : LinkStrategy} :
    l.join t.tableAlias ∈ (l.plan t field strategy settings request joins columns).joins ↔
      l.join t.tableAlias ∈ joins ∨
        strategy = .join ∧ ∃ ids ∈ Clause.wanted request.criteria, ids ≠ [] := by
  rw [plan, SearchTarget.plan]
  dsimp only
  constructor
  · intro h
    rcases List.mem_append.1 ((mem_of_mem_foldl_addJoin h).resolve_left (by simp)) with h | h
    · exact Or.inl h
    · obtain ⟨f, hf, h⟩ := List.mem_flatMap.1 h
      obtain ⟨c, hc, ids, hids, rfl⟩ := mem_fragments_iff.1 hf
      obtain ⟨-, hne, hstrategy, hnegate⟩ := fragment_join.1 (Option.mem_toList.1 h)
      exact Or.inr ⟨hstrategy, ids, Clause.mem_wanted_iff.2 ⟨c, hc, hnegate, hids⟩, hne⟩
  · intro h
    refine mem_foldl_addJoin (l.join_ne_empty _) (Or.inr (List.mem_append.2 ?_))
    refine h.imp_right ?_
    rintro ⟨hstrategy, ids, hmem, hne⟩
    obtain ⟨c, hc, hnegate, hids⟩ := Clause.mem_wanted_iff.1 hmem
    refine List.mem_flatMap.2 ⟨_, mem_fragments_iff.2 ⟨c, hc, ids, hids, rfl⟩, ?_⟩
    exact Option.mem_toList.2 (fragment_join.2 ⟨rfl, hne, hstrategy, hnegate⟩)

/-! ### What the plans select -/

theorem selects_iff {strategy : LinkStrategy} :
    l.Selects (l.plan t field strategy settings request joins columns) content k ↔
      ∃ chosen,
        (l.join t.tableAlias ∈ joins ∨
            strategy = .join ∧ (∃ ids ∈ Clause.wanted request.criteria, ids ≠ []) →
          chosen ∈ content ∧ chosen.owner = k) ∧
        (∀ ids ∈ Clause.wanted request.criteria, l.Holds t.tableAlias content k chosen
          (l.fragment strategy t.tableAlias false ids).condition) ∧
        ∀ ids ∈ Clause.barred request.criteria, ¬Linked content k ids := by
  rw [Selects]
  apply exists_congr
  intro chosen
  refine and_congr (imp_congr join_mem_iff Iff.rfl) (forall_predicates_iff.trans ?_)
  exact and_congr Iff.rfl (forall₂_congr fun ids _ => holds_fragment_barred)

/-- With subqueries each id set has a link row of its own. -/
theorem selects_exists :
    l.Selects (l.plan t field .exists_ settings request joins columns) content k ↔
      (l.join t.tableAlias ∈ joins → ∃ row ∈ content, row.owner = k) ∧
        (∀ ids ∈ Clause.wanted request.criteria, Linked content k ids) ∧
        ∀ ids ∈ Clause.barred request.criteria, ¬Linked content k ids := by
  rw [selects_iff]
  simp only [holds_fragment_exists]
  constructor
  · rintro ⟨chosen, hjoin, hwanted, hbarred⟩
    exact ⟨fun h => ⟨chosen, hjoin (Or.inl h)⟩, hwanted, hbarred⟩
  · rintro ⟨hjoin, hwanted, hbarred⟩
    by_cases h : l.join t.tableAlias ∈ joins
    · obtain ⟨chosen, hchosen⟩ := hjoin h
      exact ⟨chosen, fun _ => hchosen, hwanted, hbarred⟩
    · -- without the join nothing looks at the chosen row, so it may be any
      exact ⟨⟨0, 0⟩, by simp [h], hwanted, hbarred⟩

/-- With the join one link row is in all id sets. -/
theorem selects_join :
    l.Selects (l.plan t field .join settings request joins columns) content k ↔
      (l.join t.tableAlias ∈ joins ∨ Clause.wanted request.criteria ≠ [] →
          ∃ row ∈ content, row.owner = k ∧ ∀ ids ∈ Clause.wanted request.criteria, row.target ∈ ids) ∧
        ∀ ids ∈ Clause.barred request.criteria, ¬Linked content k ids := by
  rw [selects_iff]
  simp only [holds_fragment_join, true_and]
  constructor
  · rintro ⟨chosen, hjoin, hwanted, hbarred⟩
    refine ⟨?_, hbarred⟩
    intro h
    have hchosen : chosen ∈ content ∧ chosen.owner = k := by
      rcases h with h | h
      · exact hjoin (Or.inl h)
      · obtain ⟨ids, hids⟩ := List.exists_mem_of_ne_nil _ h
        exact hjoin (Or.inr ⟨ids, hids, List.ne_nil_of_mem (hwanted ids hids)⟩)
    exact ⟨chosen, hchosen.1, hchosen.2, hwanted⟩
  · rintro ⟨hrow, hbarred⟩
    by_cases h : l.join t.tableAlias ∈ joins ∨ Clause.wanted request.criteria ≠ []
    · obtain ⟨row, hmem, howner, hwanted⟩ := hrow h
      exact ⟨row, fun _ => ⟨hmem, howner⟩, hwanted, hbarred⟩
    · obtain ⟨hjoins, hnone⟩ := not_or.1 h
      rw [not_not] at hnone
      exact ⟨⟨0, 0⟩, by simp [hjoins, hnone], by simp [hnone], hbarred⟩

end LinkTable

/-- Whether one of the id sets that are asked for has, apart from ids that are ruled out, no id that
another one lacks. This is so if no set is asked for at all. -/
def Clause.OneWithinAll (clauses : List Clause) : Prop :=
  wanted clauses = [] ∨ ∃ ids ∈ wanted clauses, ∀ others ∈ wanted clauses, ∀ id ∈ ids,
    id ∈ others ∨ ∃ out ∈ barred clauses, id ∈ out

namespace LinkTable

variable {l : LinkTable} {t : SearchTarget} {field : String} {settings : Settings}
  {request : SearchRequest} {joins columns : List String}

theorem selects_exists_of_join {content : List LinkRow} {k : Int}
    (h : l.Selects (l.plan t field .join settings request joins columns) content k) :
    l.Selects (l.plan t field .exists_ settings request joins columns) content k := by
  obtain ⟨hrow, hbarred⟩ := selects_join.1 h
  rw [selects_exists]
  refine ⟨?_, ?_, hbarred⟩
  · intro hjoin
    obtain ⟨row, hmem, howner, -⟩ := hrow (Or.inl hjoin)
    exact ⟨row, hmem, howner⟩
  · intro ids hids
    obtain ⟨row, hmem, howner, hwanted⟩ := hrow (Or.inr (List.ne_nil_of_mem hids))
    exact ⟨row, hmem, howner, hwanted ids hids⟩

theorem selects_join_of_exists (hwithin : Clause.OneWithinAll request.criteria)
    {content : List LinkRow} {k : Int}
    (h : l.Selects (l.plan t field .exists_ settings request joins columns) content k) :
    l.Selects (l.plan t field .join settings request joins columns) content k := by
  obtain ⟨hjoin, hwanted, hbarred⟩ := selects_exists.1 h
  rw [selects_join]
  refine ⟨?_, hbarred⟩
  intro hany
  rcases hwithin with hnone | ⟨ids, hids, hwithin⟩
  · obtain ⟨row, hmem, howner⟩ := hjoin (hany.resolve_right (not_not.2 hnone))
    exact ⟨row, hmem, howner, by simp [hnone]⟩
  · obtain ⟨row, hmem, howner, htarget⟩ := hwanted ids hids
    refine ⟨row, hmem, howner, ?_⟩
    intro others hothers
    rcases hwithin others hothers row.target htarget with h | ⟨out, hout, htarget⟩
    · exact h
    · exact absurd ⟨row, hmem, howner, htarget⟩ (hbarred out hout)

/-- If no id set lies within all, then one id from each makes rows that tell the plans apart. -/
theorem exists_content (l : LinkTable) (t : SearchTarget) (field : String) (settings : Settings)
    (joins columns : List String) (hwithin : ¬Clause.OneWithinAll request.criteria) :
    ∃ content, l.Selects (l.plan t field .exists_ settings request joins columns) content 0 ∧
      ¬l.Selects (l.plan t field .join settings request joins columns) content 0 := by
  obtain ⟨hsome, hwithin⟩ := not_or.1 hwithin
  -- each set has an id that some set lacks and that is not ruled out
  have hmissing : ∀ ids ∈ Clause.wanted request.criteria, ∃ id ∈ ids,
      (∃ others ∈ Clause.wanted request.criteria, id ∉ others) ∧
        ∀ out ∈ Clause.barred request.criteria, id ∉ out := by
    intro ids hids
    by_contra hnot
    refine hwithin ⟨ids, hids, ?_⟩
    intro others hothers id hid
    by_contra hneither
    obtain ⟨hother, hout⟩ := not_or.1 hneither
    exact hnot ⟨id, hid, ⟨others, hothers, hother⟩, fun out hmem hid => hout ⟨out, hmem, hid⟩⟩
  choose! pick hpick hother hout using hmissing
  obtain ⟨content, hcontent⟩ : ∃ content : List LinkRow, ∀ row, row ∈ content ↔
      ∃ ids ∈ Clause.wanted request.criteria, (⟨0, pick ids⟩ : LinkRow) = row :=
    ⟨_, fun row => List.mem_map⟩
  refine ⟨content, selects_exists.2 ⟨?_, ?_, ?_⟩, ?_⟩
  · intro _
    obtain ⟨ids, hids⟩ := List.exists_mem_of_ne_nil _ hsome
    exact ⟨_, (hcontent _).2 ⟨ids, hids, rfl⟩, rfl⟩
  · intro ids hids
    exact ⟨_, (hcontent _).2 ⟨ids, hids, rfl⟩, rfl, hpick ids hids⟩
  · rintro out hmem ⟨row, hrow, -, htarget⟩
    obtain ⟨ids, hids, rfl⟩ := (hcontent row).1 hrow
    exact hout ids hids out hmem htarget
  · intro hselects
    obtain ⟨row, hrow, -, hall⟩ := (selects_join.1 hselects).1 (Or.inr hsome)
    obtain ⟨ids, hids, rfl⟩ := (hcontent row).1 hrow
    obtain ⟨others, hothers, hmissing⟩ := hother ids hids
    exact hmissing (hall others hothers)

/-- When the two strategies are interchangeable. Both compile every request that asks for
membership in the linked field only. The join selects nothing that the subqueries do not select.
They select the same rows, whatever the link table holds, if and only if one of the id sets lies
within all of them. -/
theorem strategies_agree_iff (l : LinkTable) {t : SearchTarget} {field : String}
    (htable : isIdentifier t.table = true) (hfield : isIdentifier field = true)
    {joins columns : List String} (hjoins : fillTemplates t.extraJoins t.tableAlias = .ok joins)
    (hcolumns : fillTemplates t.extraColumns t.tableAlias = .ok columns) (settings : Settings)
    {request : SearchRequest} (hclauses : ∀ c ∈ request.criteria, c.AsksAnyOf field) :
    ∃ joined asked, ((t.linked field l .join).compile settings request []).result = .ok joined ∧
      ((t.linked field l .exists_).compile settings request []).result = .ok asked ∧
      (∀ content k, l.Selects joined content k → l.Selects asked content k) ∧
      ((∀ content k, l.Selects joined content k ↔ l.Selects asked content k) ↔
        Clause.OneWithinAll request.criteria) := by
  refine ⟨_, _, compile_linked htable hfield hjoins hcolumns settings hclauses,
    compile_linked htable hfield hjoins hcolumns settings hclauses,
    fun content k => selects_exists_of_join, ?_, ?_⟩
  · intro hagree
    by_contra hwithin
    obtain ⟨content, hasked, hjoined⟩ := exists_content l t field settings joins columns hwithin
    exact hjoined ((hagree content 0).2 hasked)
  · intro hwithin content k
    exact ⟨selects_exists_of_join, selects_join_of_exists hwithin⟩

/-! ### The tags of notes -/

def noteTags : LinkTable := ⟨"note_tags", "note_id", "tag_id", "note_id"⟩

def taggedRequest (sets : List (List Int)) : SearchRequest where
  criteria := sets.map fun ids => ⟨"tags", "ANY_OF", .list (ids.map .int), false⟩

theorem asksAnyOf_taggedRequest (sets : List (List Int)) :
    ∀ c ∈ (taggedRequest sets).criteria, c.AsksAnyOf "tags" := by
  intro c hc
  obtain ⟨ids, -, rfl⟩ := List.mem_map.1 hc
  refine ⟨rfl, ?_⟩
  show Operator.ofCondition? "ANY_OF" = some .anyOf
  decide

theorem strategies_agree_notes :
    isIdentifier "notes" = true ∧ isIdentifier "tags" = true ∧
      (∀ c ∈ (taggedRequest [[2, 5]]).criteria, c.AsksAnyOf "tags") ∧
      ∃ joined asked,
        ((SearchTarget.linked { table := "notes" } "tags" noteTags .join).compile {}
          (taggedRequest [[2, 5]]) []).result = .ok joined ∧
        ((SearchTarget.linked { table := "notes" } "tags" noteTags .exists_).compile {}
          (taggedRequest [[2, 5]]) []).result = .ok asked ∧
        ∀ content k, noteTags.Selects joined content k ↔ noteTags.Selects asked content k := by
  have htable : isIdentifier "notes" = true := by decide
  have hfield : isIdentifier "tags" = true := by decide
  have hclauses := asksAnyOf_taggedRequest [[2, 5]]
  obtain ⟨joined, asked, hjoined, hasked, -, hiff⟩ := noteTags.strategies_agree_iff
    (t := { table := "notes" }) htable hfield rfl rfl {} hclauses
  have hwanted : Clause.wanted (taggedRequest [[2, 5]]).criteria = [[2, 5]] := rfl
  refine ⟨htable, hfield, hclauses, joined, asked, hjoined, hasked, hiff.2 (Or.inr ?_)⟩
  rw [hwanted]
  simp

/-- A note with the tags 1 and 2 has any of 1 and has any of 2. Subqueries select it. The join does
not, because the two criteria share one clause, and with it one link row. -/
theorem strategies_differ_notes :
    ∃ joined asked,
      ((SearchTarget.linked { table := "notes" } "tags" noteTags .join).compile {}
        (taggedRequest [[1], [2]]) []).result = .ok joined ∧
      ((SearchTarget.linked { table := "notes" } "tags" noteTags .exists_).compile {}
        (taggedRequest [[1], [2]]) []).result = .ok asked ∧
      noteTags.Selects asked [⟨7, 1⟩, ⟨7, 2⟩] 7 ∧ ¬noteTags.Selects joined [⟨7, 1⟩, ⟨7, 2⟩] 7 := by
  have htable : isIdentifier "notes" = true := by decide
  have hfield : isIdentifier "tags" = true := by decide
  have hclauses := asksAnyOf_taggedRequest [[1], [2]]
  have hwanted : Clause.wanted (taggedRequest [[1], [2]]).criteria = [[1], [2]] := rfl
  have hbarred : Clause.barred (taggedRequest [[1], [2]]).criteria = [] := rfl
  refine ⟨_, _, compile_linked (t := { table := "notes" }) htable hfield rfl rfl {} hclauses,
    compile_linked (t := { table := "notes" }) htable hfield rfl rfl {} hclauses, ?_, ?_⟩
  · rw [selects_exists, hwanted, hbarred]
    simp [Linked]
  · rw [selects_join, hwanted, hbarred]
    simp

end LinkTable

end CatalogSearch
