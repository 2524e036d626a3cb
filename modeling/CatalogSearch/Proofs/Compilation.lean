import CatalogSearch.Proofs.Registry

/-!
# Compiling clause by clause

`SearchTarget.compile` first checks all clauses and then compiles what is left. What comes of it is
the same as if each clause were taken through both steps on its own: `clauseFragment` is that one
way of a clause, and `compile_result` reads the whole plan off it. A target that registers its
handlers and whose templates are plain compiles every request (`compile_registered`).
-/

namespace CatalogSearch

theorem Text.eq_ofString_of_string? {t : Text} {s : String} (h : t.string? = some s) :
    t = Text.ofString s := by
  have hpoints : ∀ (ps : List CodePoint) (cs : List Char),
      ps.mapM CodePoint.char? = some cs → ps = cs.map .char := by
    intro ps
    induction ps with
    | nil =>
      intro cs hcs
      cases hcs
      rfl
    | cons p ps ih =>
      intro cs hcs
      simp only [List.mapM_cons, Option.bind_eq_bind, Option.bind_eq_some_iff] at hcs
      obtain ⟨c, hc, ds, hds, hcs⟩ := hcs
      cases hcs
      cases p with
      | half offset => cases hc
      | char d =>
        cases hc
        rw [ih ds hds, List.map_cons]
  obtain ⟨ps⟩ := t
  obtain ⟨cs, hcs, rfl⟩ := Option.map_eq_some_iff.1 h
  rw [Text.ofString, String.toList_ofList, ← hpoints ps cs hcs]

theorem exists_of_bind_eq_ok {ε α β : Type} {x : Except ε α} {f : α → Except ε β} {b : β}
    (h : x >>= f = .ok b) : ∃ a, x = .ok a ∧ f a = .ok b := by
  cases x with
  | error e => cases h
  | ok a => exact ⟨a, rfl, h⟩

theorem exists_of_map_eq_ok {ε α β : Type} {x : Except ε α} {f : α → β} {b : β}
    (h : x.map f = .ok b) : ∃ a, x = .ok a ∧ f a = b := by
  cases x with
  | error e => cases h
  | ok a => exact ⟨a, rfl, Except.ok.inj h⟩

theorem exists_of_mapM_cons_eq_ok {ε α β : Type} {f : α → Except ε β} {x : α} {xs : List α}
    {ys : List β} (h : (x :: xs).mapM f = .ok ys) :
    ∃ y zs, f x = .ok y ∧ xs.mapM f = .ok zs ∧ ys = y :: zs := by
  rw [List.mapM_cons] at h
  obtain ⟨y, hx, h⟩ := exists_of_bind_eq_ok h
  obtain ⟨zs, hxs, h⟩ := exists_of_bind_eq_ok h
  cases h
  exact ⟨y, zs, hx, hxs, rfl⟩

theorem Operator.mem_all_of_ofCondition? {condition : Text} {op : Operator}
    (h : ofCondition? condition = some op) : op ∈ all := by
  obtain ⟨s, -, hs⟩ := Option.bind_eq_some_iff.1 h
  exact List.mem_of_find?_eq_some hs

theorem Clause.toCriterion_eq_ok {clause : Clause} {rawValue : Bool} {c : Criterion}
    (h : clause.toCriterion rawValue = .ok c) :
    Operator.ofCondition? clause.condition = some c.operator ∧
      clause.field = Text.ofString c.field ∧ isIdentifier c.field = true ∧
      c.value = clause.value ∧ c.negate = clause.negate := by
  rw [toCriterion] at h
  split at h
  case h_1 => cases h
  case h_2 op hop =>
    split at h
    case h_1 => cases h
    case h_2 field hfield =>
      split at h
      case isTrue => cases h
      case isFalse =>
        cases h
        obtain ⟨hstring, hidentifier⟩ := Option.filter_eq_some_iff.1 hfield
        exact ⟨hop, Text.eq_ofString_of_string? hstring, hidentifier, rfl, rfl⟩

namespace SearchTarget

variable {t : SearchTarget} {r : Registry}

def clauseOutcome (t : SearchTarget) (clause : Clause) : Except Failure Outcome :=
  match clause.toCriterion (clause.field.string?.any t.isHandled) with
  | .ok c => t.outcome c
  | .error n => .ok ⟨[n], none⟩

def clauseFragment (t : SearchTarget) (clause : Clause) : Option Fragment :=
  match t.clauseOutcome clause with
  | .ok o => o.fragment
  | .error _ => none

theorem clauseFragment_eq {t : SearchTarget} {clause : Clause} {o : Outcome}
    (h : t.clauseOutcome clause = .ok o) : t.clauseFragment clause = o.fragment := by
  rw [clauseFragment, h]

/-- Clauses that come to nothing can be left out. -/
theorem filterMap_clauseFragment_filter {keep : Clause → Bool} {clauses : List Clause}
    (h : ∀ clause ∈ clauses, keep clause = false → t.clauseFragment clause = none) :
    (clauses.filter keep).filterMap t.clauseFragment = clauses.filterMap t.clauseFragment := by
  induction clauses with
  | nil => rfl
  | cons clause clauses ih =>
    have hrest := ih fun d hd => h d (List.mem_cons_of_mem clause hd)
    by_cases hkeep : keep clause = true
    · rw [List.filter_cons_of_pos hkeep, List.filterMap_cons, List.filterMap_cons, hrest]
    · have hnone := h clause List.mem_cons_self (Bool.eq_false_iff.2 hkeep)
      rw [List.filter_cons_of_neg hkeep, List.filterMap_cons_none hnone, hrest]

/-- What becomes of some clauses, or the first failure. -/
def outcomes (t : SearchTarget) (clauses : List Clause) : Except Failure (List Outcome) :=
  clauses.mapM t.clauseOutcome

def fragments (t : SearchTarget) (clauses : List Clause) : Except Failure (List Fragment) :=
  (t.outcomes clauses).map fun os => os.flatMap (·.fragment.toList)

theorem outcomes_cons (clause : Clause) (clauses : List Clause) :
    t.outcomes (clause :: clauses) = do
      return (← t.clauseOutcome clause) :: (← t.outcomes clauses) :=
  List.mapM_cons

theorem fragments_cons (clause : Clause) (clauses : List Clause) :
    t.fragments (clause :: clauses) = do
      return (← t.clauseOutcome clause).fragment.toList ++ (← t.fragments clauses) := by
  rw [fragments, fragments, outcomes_cons]
  cases t.clauseOutcome clause with
  | error e => rfl
  | ok o => cases t.outcomes clauses <;> rfl

/-- Checking all clauses first makes no difference to what they come to, failures included. -/
theorem gather_eq_fragments (clauses : List Clause) :
    (Outcome.gather ((Criterion.ofClauses t.isHandled clauses).1.map t.outcome)).2
      = t.fragments clauses := by
  induction clauses with
  | nil => rfl
  | cons clause clauses ih =>
    rw [Criterion.ofClauses] at ih ⊢
    rw [fragments_cons, clauseOutcome]
    simp only [List.map_cons, List.filterMap_cons]
    cases clause.toCriterion (clause.field.string?.any t.isHandled) with
    | error n =>
      dsimp only
      rw [ih]
      cases t.fragments clauses <;> rfl
    | ok c =>
      simp only [List.map_cons]
      cases t.outcome c with
      | error e => rfl
      | ok o =>
        simp only [Outcome.gather, ih]
        cases t.fragments clauses <;> rfl

theorem fragments_eq_ok {clauses : List Clause}
    (h : ∀ clause ∈ clauses, ∃ o, t.clauseOutcome clause = .ok o) :
    t.fragments clauses = .ok (clauses.filterMap t.clauseFragment) := by
  induction clauses with
  | nil => rfl
  | cons clause clauses ih =>
    obtain ⟨⟨notices, fragment⟩, ho⟩ := h clause List.mem_cons_self
    rw [fragments_cons, ih fun d hd => h d (List.mem_cons_of_mem _ hd), ho, List.filterMap_cons,
      clauseFragment_eq ho]
    cases fragment <;> rfl

theorem result_compile (t : SearchTarget) (settings : Settings) (request : SearchRequest)
    (required : List (String → Fragment)) :
    (t.compile settings request required).result =
      if isIdentifier t.table = true then do
        let joins ← fillTemplates t.extraJoins t.tableAlias
        let asked ← t.fragments request.criteria
        let columns ← fillTemplates t.extraColumns t.tableAlias
        return t.plan (pageWindow settings request) joins
          (asked ++ required.map (· t.tableAlias)) columns
      else .error (.invalidTable t.table) := by
  rw [compile]
  by_cases htable : isIdentifier t.table = true
  · rw [if_neg (by simp [htable]), if_pos htable]
    cases fillTemplates t.extraJoins t.tableAlias with
    | error e => rfl
    | ok joins =>
      dsimp only
      rw [gather_eq_fragments]
      rfl
  · rw [if_pos (by simp [htable]), if_neg htable]

/-- The window of a plan is that of the request, whatever the target is. -/
theorem window_of_compile {settings : Settings} {request : SearchRequest}
    {required : List (String → Fragment)} {plan : SearchPlan}
    (h : (t.compile settings request required).result = .ok plan) :
    (plan.pageSize, plan.offset) = pageWindow settings request := by
  rw [result_compile] at h
  split at h
  case isTrue =>
    obtain ⟨joins, -, h⟩ := exists_of_bind_eq_ok h
    obtain ⟨asked, -, h⟩ := exists_of_bind_eq_ok h
    obtain ⟨columns, -, h⟩ := exists_of_bind_eq_ok h
    cases h
    rfl
  case isFalse => cases h

/-- A page starts at the beginning or behind it, and is no larger than the greatest size. -/
theorem pageWindow_bounds (settings : Settings) (request : SearchRequest) :
    (pageWindow settings request).1 ≤ settings.maxPageSize ∧
      0 ≤ (pageWindow settings request).2 := by
  rw [pageWindow]
  dsimp only
  refine ⟨by omega, ?_⟩
  split
  case isTrue hsize => exact Int.mul_nonneg (by omega) (by omega)
  case isFalse => exact Int.le_refl 0

/-- The plan of a request. Its predicates are the fragments of the clauses, in order, and behind
them the required ones. -/
theorem compile_result (t : SearchTarget) (settings : Settings) (request : SearchRequest)
    (required : List (String → Fragment)) {joins columns : List String}
    (htable : isIdentifier t.table = true)
    (hjoins : fillTemplates t.extraJoins t.tableAlias = .ok joins)
    (hcolumns : fillTemplates t.extraColumns t.tableAlias = .ok columns)
    (hclauses : ∀ clause ∈ request.criteria, ∃ o, t.clauseOutcome clause = .ok o) :
    (t.compile settings request required).result
      = .ok (t.plan (pageWindow settings request) joins
          (request.criteria.filterMap t.clauseFragment ++ required.map (· t.tableAlias))
          columns) := by
  rw [result_compile, if_pos htable, hjoins, fragments_eq_ok hclauses, hcolumns]
  rfl

theorem clauseOutcome_emits (hr : t.Registers r) (clause : Clause) :
    ∃ o, t.clauseOutcome clause = .ok o ∧ ∀ f, o.fragment = some f →
      ∃ field, clause.field = Text.ofString field ∧ t.Emits r field f := by
  rw [clauseOutcome]
  cases hc : clause.toCriterion (clause.field.string?.any t.isHandled) with
  | error n => exact ⟨_, rfl, by simp⟩
  | ok c =>
    obtain ⟨hop, hfield, hidentifier, -, -⟩ := Clause.toCriterion_eq_ok hc
    obtain ⟨o, ho, hemits⟩ :=
      outcome_emits hr c (Operator.mem_all_of_ofCondition? hop) hidentifier
    exact ⟨o, ho, fun f hf => ⟨c.field, hfield, hemits f hf⟩⟩

theorem clauseFragment_emits (hr : t.Registers r) {clause : Clause} {f : Fragment}
    (h : t.clauseFragment clause = some f) :
    ∃ field, clause.field = Text.ofString field ∧ t.Emits r field f := by
  obtain ⟨o, ho, hemits⟩ := clauseOutcome_emits hr clause
  rw [clauseFragment_eq ho] at h
  exact hemits f h

/-- A target with registered handlers compiles every request. -/
theorem compile_registered (hr : t.Registers r) (settings : Settings) (request : SearchRequest)
    (required : List (String → Fragment)) :
    (t.compile settings request required).result
      = .ok (t.plan (pageWindow settings request)
          (t.extraJoins.map (Template.expand · t.tableAlias))
          (request.criteria.filterMap t.clauseFragment ++ required.map (· t.tableAlias))
          (t.extraColumns.map (Template.expand · t.tableAlias))) := by
  refine t.compile_result settings request required hr.table (fillTemplates_eq hr.joins _)
    (fillTemplates_eq hr.columns _) fun clause _ => ?_
  obtain ⟨o, ho, -⟩ := clauseOutcome_emits hr clause
  exact ⟨o, ho⟩

end SearchTarget

/-! ### The four entities -/

namespace Entity

def registry : Entity → Registry
  | documents =>
    [("tags", .linkedToAny "archive_document_tags" "archive_document_id" "tag_id"
        "archive_document_id" .exists_),
      ("descriptive_signature_prefix", .storedPaths pathsColumn)]
  | notes =>
    [("tags", .linkedToAny "note_tags" "note_id" "tag_id" "note_id" .exists_),
      ("owner_login", .joinedColumn noteOwnerJoin "note_owner.login")]
  | elements =>
    [("parent_ids", .linkedToAny "signature_element_parents" "child_element_id" "parent_element_id"
        "signature_element_id" .exists_),
      ("component_name", .joinedColumn elementComponentJoin "element_component.name"),
      ("has_parents", .hasLinked "signature_element_parents" "child_element_id"
        "signature_element_id")]
  | logs => []

theorem noteOwnerJoin_plain : Template.Plain noteOwnerJoin := by cbv

theorem elementComponentJoin_plain : Template.Plain elementComponentJoin := by cbv

theorem target_registers (e : Entity) : e.target.Registers e.registry where
  table := by cases e <;> rfl
  handlers := by cases e <;> rfl
  joins := by
    cases e with
    | documents => simp [target, documentsTarget]
    | notes => simpa [target, notesTarget] using noteOwnerJoin_plain
    | elements => simpa [target, elementsTarget] using elementComponentJoin_plain
    | logs => simp [target, logsTarget]
  columns := by
    cases e with
    | documents => simp [target, documentsTarget]
    | notes =>
      have h : Template.Plain "note_owner.login AS owner_login" := by cbv
      simpa [target, notesTarget] using h
    | elements =>
      have h : Template.Plain "element_component.name AS component_name" := by cbv
      simpa [target, elementsTarget] using h
    | logs => simp [target, logsTarget]
  plain := by
    cases e with
    | documents => simp [registry, HandlerKind.Plain]
    | notes => simpa [registry, HandlerKind.Plain] using noteOwnerJoin_plain
    | elements => simpa [registry, HandlerKind.Plain] using elementComponentJoin_plain
    | logs => simp [registry]

end Entity

end CatalogSearch
