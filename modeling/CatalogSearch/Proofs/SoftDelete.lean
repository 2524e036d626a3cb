import CatalogSearch.Proofs.Visibility

/-!
# Deleted documents

Documents that were deleted softly are shown only if an administrator filters on `active`. Whether a
request does so is read off its clauses as they were sent, before it is known which of them are
skipped. So there is one case in which the default is lifted and nothing takes its place: all clauses
of an administrator on `active` are skipped (`SearchRequest.FiltersInVain`). In every other case the
default stands or a clause on `active` has a predicate, and skipped clauses make no difference.
-/

namespace CatalogSearch

/-- Whether a value makes a condition on a plain column: it has the shape that the operator takes,
and an array holds scalars only. -/
def Operator.takes (op : Operator) (v : Value) : Bool :=
  op.fits v && match v with
    | .list vs => op != .anyOf || vs.all Value.isScalar
    | _ => true

theorem Criterion.isSome_plain {c : Criterion} (hop : c.operator ∈ Operator.all)
    (hfits : c.operator.fits c.value = true) (column : String) :
    ∃ o, c.plain column = .ok o ∧ o.fragment.isSome = c.operator.takes c.value := by
  obtain ⟨field, op, value, negate⟩ := c
  dsimp only at hop hfits
  rw [plain, plainCondition, if_neg (by simp [hfits])]
  refine ⟨_, rfl, ?_⟩
  cases op with
  | anyOf =>
    cases value with
    | list vs =>
      cases vs with
      | nil => rfl
      | cons v vs =>
        have htakes : Operator.anyOf.takes (.list (v :: vs)) = (v :: vs).all Value.isScalar := by
          simp [Operator.takes, Operator.fits]
        rw [htakes]
        cases hall : (v :: vs).all Value.isScalar with
        | false => simp [hall]
        | true => simp [hall]
    | _ => cases hfits
  | other s => simp [Operator.all] at hop
  | _ => cases value <;> first | rfl | cases hfits

/-- Whether a clause on a plain column makes a condition. -/
def Clause.isEffective (c : Clause) : Bool :=
  (Operator.ofCondition? c.condition).any fun op => op.takes c.value

namespace Entity

theorem isSome_clauseFragment {clause : Clause} (h : clause.isOnActive = true) :
    (documents.target.clauseFragment clause).isSome = clause.isEffective := by
  have hfield : clause.field = Text.ofString "active" := eq_of_beq h
  have hidentifier : clause.field.identifier? = some "active" := by
    rw [hfield, Text.identifier?, Text.string?_ofString]
    decide
  have hraw : clause.field.string?.any documents.target.isHandled = false := by
    rw [hfield, Text.string?_ofString]
    decide
  have houtcome : ∀ c : Criterion, c.field = "active" →
      documents.target.outcome c = c.plain "archive_documents_main.active" := by
    intro c hc
    have hlookup : documents.target.handlers.lookup "active" = none := rfl
    have hlisted : documents.target.fields.contains "active" = true := by decide
    rw [SearchTarget.outcome, hc, hlookup]
    dsimp only
    rw [SearchTarget.plainOutcome, hc, if_pos hlisted]
    rfl
  rw [SearchTarget.clauseFragment, SearchTarget.clauseOutcome, hraw, Clause.isEffective,
    Clause.toCriterion]
  cases hop : Operator.ofCondition? clause.condition with
  | none => rfl
  | some op =>
    have hall := Operator.mem_all_of_ofCondition? hop
    dsimp only
    rw [hidentifier]
    dsimp only
    cases hfits : op.fits clause.value with
    | false => simp [Operator.takes, hfits]
    | true =>
      obtain ⟨o, ho, hsome⟩ := Criterion.isSome_plain
        (c := ⟨"active", op, clause.value, clause.negate⟩) hall hfits
        "archive_documents_main.active"
      simp [houtcome ⟨"active", op, clause.value, clause.negate⟩ rfl, ho, hsome]

theorem clauseFragment_of_skipped {clause : Clause} (hactive : clause.isOnActive = true)
    (hskipped : clause.isEffective = false) : documents.target.clauseFragment clause = none := by
  rw [← Option.not_isSome_iff_eq_none, isSome_clauseFragment hactive, hskipped]
  exact Bool.false_ne_true

/-! ### The default -/

def documentsPlan (settings : Settings) (request : SearchRequest) (p : Principal) : SearchPlan :=
  documents.target.plan (SearchTarget.pageWindow settings request)
    (documents.target.extraJoins.map (Template.expand · documents.target.tableAlias))
    ((allowDocuments request p).request.criteria.filterMap documents.target.clauseFragment ++
      (allowDocuments request p).required.map (· documents.target.tableAlias))
    (documents.target.extraColumns.map (Template.expand · documents.target.tableAlias))

theorem compile_documents (settings : Settings) (request : SearchRequest) (p : Principal) :
    (documents.compile settings (allowDocuments request p).request
      (allowDocuments request p).required).result = .ok (documentsPlan settings request p) := by
  have hwindow : SearchTarget.pageWindow settings (allowDocuments request p).request
      = SearchTarget.pageWindow settings request := by
    rw [allowDocuments]
    split
    · split <;> rfl
    · rfl
  rw [documentsPlan, ← hwindow]
  exact SearchTarget.compile_registered documents.target_registers settings _ _

end Entity

def SearchPlan.ShowsActiveOnly (plan : SearchPlan) : Prop :=
  ∃ q ∈ plan.predicates, q.sql = "archive_documents_main.active = ?" ∧ q.parameters = [.int 1]

def SearchPlan.FiltersActive (plan : SearchPlan) (request : SearchRequest) : Prop :=
  ∃ clause ∈ request.criteria, clause.isOnActive = true ∧
    ∃ q ∈ plan.predicates, Entity.documents.target.clausePredicate clause = some q

namespace SearchRequest

/-- Whether a request has clauses on `active` that are all skipped, and comes from an
administrator. -/
def FiltersInVain (request : SearchRequest) (p : Principal) : Prop :=
  p.isAdmin = true ∧ (∃ clause ∈ request.criteria, clause.isOnActive = true) ∧
    ∀ clause ∈ request.criteria, clause.isOnActive = true → clause.isEffective = false

def withoutSkipped (request : SearchRequest) : SearchRequest :=
  { request with criteria := request.criteria.filter fun c => !c.isOnActive || c.isEffective }

end SearchRequest

namespace Entity

theorem allowDocuments_of_admin {p : Principal} (hadmin : p.isAdmin = true) (request : SearchRequest) :
    (allowDocuments request p).request = request ∧
      (allowDocuments request p).required
        = if request.criteria.any Clause.isOnActive then [] else [activeOnly] := by
  rw [allowDocuments, hadmin]
  split
  · exact ⟨rfl, rfl⟩
  · exact ⟨rfl, rfl⟩

theorem mem_withoutSkipped {request : SearchRequest} {clause : Clause} :
    clause ∈ request.withoutSkipped.criteria ↔ clause ∈ request.criteria ∧
      (clause.isOnActive = true → clause.isEffective = true) := by
  rw [SearchRequest.withoutSkipped, List.mem_filter]
  cases clause.isOnActive <;> simp

theorem filterMap_withoutSkipped (request : SearchRequest) :
    request.withoutSkipped.criteria.filterMap documents.target.clauseFragment
      = request.criteria.filterMap documents.target.clauseFragment := by
  apply SearchTarget.filterMap_clauseFragment_filter
  intro clause _ hskipped
  rw [Bool.or_eq_false_iff, Bool.not_eq_false'] at hskipped
  exact clauseFragment_of_skipped hskipped.1 hskipped.2

theorem filter_withoutSkipped (request : SearchRequest) :
    request.withoutSkipped.criteria.filter (!·.isOnActive)
      = request.criteria.filter (!·.isOnActive) := by
  rw [SearchRequest.withoutSkipped, List.filter_filter]
  apply List.filter_congr
  intro clause _
  cases clause.isOnActive <;> simp

theorem any_withoutSkipped_iff {request : SearchRequest} :
    request.withoutSkipped.criteria.any Clause.isOnActive = true ↔
      ∃ clause ∈ request.criteria, clause.isOnActive = true ∧ clause.isEffective = true := by
  simp only [List.any_eq_true, mem_withoutSkipped]
  constructor
  · rintro ⟨clause, ⟨hclause, heffective⟩, hactive⟩
    exact ⟨clause, hclause, hactive, heffective hactive⟩
  · rintro ⟨clause, hclause, hactive, heffective⟩
    exact ⟨clause, ⟨hclause, fun _ => heffective⟩, hactive⟩

/-- What is required depends on skipped clauses only if an administrator filters in vain. -/
theorem required_withoutSkipped {request : SearchRequest} {p : Principal}
    (h : ¬request.FiltersInVain p) :
    (allowDocuments request.withoutSkipped p).required = (allowDocuments request p).required := by
  cases hadmin : p.isAdmin with
  | false => rw [(allowDocuments_of_regular hadmin _).2, (allowDocuments_of_regular hadmin _).2]
  | true =>
    have hany : request.withoutSkipped.criteria.any Clause.isOnActive
        = request.criteria.any Clause.isOnActive := by
      rw [Bool.eq_iff_iff, any_withoutSkipped_iff, List.any_eq_true]
      constructor
      · rintro ⟨clause, hclause, hactive, -⟩
        exact ⟨clause, hclause, hactive⟩
      · intro hsome
        by_contra hnone
        refine h ⟨hadmin, hsome, ?_⟩
        intro clause hclause hactive
        rw [Bool.eq_false_iff]
        intro heffective
        exact hnone ⟨clause, hclause, hactive, heffective⟩
    rw [(allowDocuments_of_admin hadmin _).2, (allowDocuments_of_admin hadmin _).2, hany]

theorem fragments_withoutSkipped (request : SearchRequest) (p : Principal) :
    (allowDocuments request.withoutSkipped p).request.criteria.filterMap
        documents.target.clauseFragment
      = (allowDocuments request p).request.criteria.filterMap
          documents.target.clauseFragment := by
  cases hadmin : p.isAdmin with
  | false =>
    rw [(allowDocuments_of_regular hadmin _).1, (allowDocuments_of_regular hadmin _).1,
      filter_withoutSkipped]
  | true =>
    rw [(allowDocuments_of_admin hadmin _).1, (allowDocuments_of_admin hadmin _).1,
      filterMap_withoutSkipped]

theorem documentsPlan_withoutSkipped (settings : Settings) {request : SearchRequest} {p : Principal}
    (h : ¬request.FiltersInVain p) :
    documentsPlan settings request.withoutSkipped p = documentsPlan settings request p := by
  have hwindow : SearchTarget.pageWindow settings request.withoutSkipped
      = SearchTarget.pageWindow settings request := rfl
  rw [documentsPlan, documentsPlan, hwindow, required_withoutSkipped h, fragments_withoutSkipped]

theorem predicates_documentsPlan (settings : Settings) (request : SearchRequest) (p : Principal) :
    (documentsPlan settings request p).predicates
      = (allowDocuments request p).request.criteria.filterMap documents.target.clausePredicate ++
        (allowDocuments request p).required.map documents.target.requiredPredicate := by
  show List.map _ _ = _
  rw [List.map_append, List.map_filterMap, List.map_map]
  rfl

theorem showsActiveOnly_of_required (settings : Settings) {request : SearchRequest} {p : Principal}
    (h : (allowDocuments request p).required = [activeOnly]) :
    (documentsPlan settings request p).ShowsActiveOnly := by
  refine ⟨documents.target.requiredPredicate activeOnly, ?_, text_activeOnly, rfl⟩
  rw [predicates_documentsPlan, h]
  simp

theorem predicates_of_vain (settings : Settings) {request : SearchRequest} {p : Principal}
    (h : request.FiltersInVain p) :
    (documentsPlan settings request p).predicates
      = request.criteria.filterMap documents.target.clausePredicate := by
  obtain ⟨hadmin, hsome, -⟩ := h
  obtain ⟨hrequest, hrequired⟩ := allowDocuments_of_admin hadmin request
  rw [if_pos (List.any_eq_true.2 hsome)] at hrequired
  rw [predicates_documentsPlan, hrequest, hrequired, List.map_nil, List.append_nil]

/-- Without the clauses that filter in vain, the condition that documents are active is back. -/
theorem predicates_withoutSkipped_of_vain (settings : Settings) {request : SearchRequest}
    {p : Principal} (h : request.FiltersInVain p) :
    (documentsPlan settings request.withoutSkipped p).predicates
      = (documentsPlan settings request p).predicates ++
          [documents.target.requiredPredicate activeOnly] := by
  obtain ⟨hadmin, hsome, hvain⟩ := h
  have hnone : ¬request.withoutSkipped.criteria.any Clause.isOnActive = true := by
    rw [any_withoutSkipped_iff]
    rintro ⟨clause, hclause, hactive, heffective⟩
    rw [hvain clause hclause hactive] at heffective
    cases heffective
  obtain ⟨-, hrequired⟩ := allowDocuments_of_admin hadmin request
  obtain ⟨-, hrequired'⟩ := allowDocuments_of_admin hadmin request.withoutSkipped
  rw [if_pos (List.any_eq_true.2 hsome)] at hrequired
  rw [if_neg hnone] at hrequired'
  show List.map _ _ = List.map _ _ ++ _
  rw [fragments_withoutSkipped, hrequired, hrequired', List.map_append, List.map_append,
    List.append_assoc]
  rfl

theorem countQuery_ne_of_vain (settings : Settings) {request : SearchRequest} {p : Principal}
    (h : request.FiltersInVain p) :
    (documentsPlan settings request p).countQuery
      ≠ (documentsPlan settings request.withoutSkipped p).countQuery := by
  have hpredicates := predicates_withoutSkipped_of_vain settings h
  have hone : (documents.target.requiredPredicate activeOnly).parameters.length = 1 := rfl
  generalize documentsPlan settings request.withoutSkipped p = plan' at hpredicates ⊢
  generalize documentsPlan settings request p = plan at hpredicates ⊢
  intro hcount
  have hlength : plan.filterParameters.length = plan'.filterParameters.length :=
    congrArg (fun query => query.parameters.length) hcount
  rw [SearchPlan.filterParameters, SearchPlan.filterParameters, hpredicates, List.flatMap_append,
    List.flatMap_singleton, List.length_append, hone] at hlength
  omega

theorem filtersActive_of_effective (settings : Settings) {request : SearchRequest} {p : Principal}
    (hadmin : p.isAdmin = true) {clause : Clause} (hclause : clause ∈ request.criteria)
    (hactive : clause.isOnActive = true) (heffective : clause.isEffective = true) :
    (documentsPlan settings request p).FiltersActive request := by
  rw [← isSome_clauseFragment hactive] at heffective
  obtain ⟨f, hf⟩ := Option.isSome_iff_exists.1 heffective
  have hq : documents.target.clausePredicate clause = some (.trimmed f.condition) := by
    rw [SearchTarget.clausePredicate, hf, Option.map_some]
  refine ⟨clause, hclause, hactive, _, ?_, hq⟩
  rw [predicates_documentsPlan, (allowDocuments_of_admin hadmin request).1]
  exact List.mem_append_left _ (List.mem_filterMap.2 ⟨clause, hclause, hq⟩)

theorem shows_or_filters_iff (settings : Settings) {request : SearchRequest} {p : Principal} :
    (documentsPlan settings request p).ShowsActiveOnly ∨
        (documentsPlan settings request p).FiltersActive request ↔ ¬request.FiltersInVain p := by
  constructor
  · intro hfilters hvain
    -- the clauses on `active` have no predicates, and no other clause has that of the default
    have hnone : ∀ clause ∈ request.criteria, clause.isOnActive = true →
        documents.target.clausePredicate clause = none := by
      intro clause hclause hactive
      rw [SearchTarget.clausePredicate,
        clauseFragment_of_skipped hactive (hvain.2.2 clause hclause hactive), Option.map_none]
    rcases hfilters with ⟨q, hq, hsql, -⟩ | ⟨clause, hclause, hactive, q, -, hq⟩
    · rw [predicates_of_vain settings hvain] at hq
      obtain ⟨clause, hclause, hq⟩ := List.mem_filterMap.1 hq
      cases hactive : clause.isOnActive with
      | false => exact clausePredicate_ne_activeOnly hactive hq hsql
      | true => cases (hnone clause hclause hactive).symm.trans hq
    · cases (hnone clause hclause hactive).symm.trans hq
  · intro hvain
    cases hadmin : p.isAdmin with
    | false =>
      exact Or.inl (showsActiveOnly_of_required settings (allowDocuments_of_regular hadmin request).2)
    | true =>
      by_cases hsome : ∃ clause ∈ request.criteria, clause.isOnActive = true
      · -- an administrator who filters, and not in vain, has a clause that is not skipped
        obtain ⟨clause, hclause, hactive, heffective⟩ : ∃ clause ∈ request.criteria,
            clause.isOnActive = true ∧ clause.isEffective = true := by
          by_contra hnone
          refine hvain ⟨hadmin, hsome, ?_⟩
          intro clause hclause hactive
          rw [Bool.eq_false_iff]
          intro heffective
          exact hnone ⟨clause, hclause, hactive, heffective⟩
        exact Or.inr (filtersActive_of_effective settings hadmin hclause hactive heffective)
      · refine Or.inl (showsActiveOnly_of_required settings ?_)
        rw [(allowDocuments_of_admin hadmin request).2, if_neg]
        rwa [List.any_eq_true]

/-- When the soft-delete default is lifted without a filter. Every search for documents compiles.
Its plan has the condition that documents are active or the predicate of a clause on `active`, and
clauses on `active` that are skipped make no difference to the queries, unless an administrator
filters in vain. Then neither holds. -/
theorem active_default_iff (settings : Settings) (request : SearchRequest) (p : Principal) :
    ∃ plan plan',
      (documents.compile settings (allowDocuments request p).request
        (allowDocuments request p).required).result = .ok plan ∧
      (documents.compile settings (allowDocuments request.withoutSkipped p).request
        (allowDocuments request.withoutSkipped p).required).result = .ok plan' ∧
      (plan.ShowsActiveOnly ∨ plan.FiltersActive request ↔ ¬request.FiltersInVain p) ∧
      (plan.countQuery = plan'.countQuery ∧ plan.dataQuery = plan'.dataQuery ↔
        ¬request.FiltersInVain p) := by
  refine ⟨_, _, compile_documents settings request p,
    compile_documents settings request.withoutSkipped p, shows_or_filters_iff settings, ?_⟩
  refine ⟨fun h hvain => countQuery_ne_of_vain settings hvain h.1, fun h => ?_⟩
  rw [documentsPlan_withoutSkipped settings h]
  exact ⟨rfl, rfl⟩

def vainRequest : SearchRequest where
  criteria := [{ field := "active", condition := "BOGUS", value := .bool true }]

theorem vainRequest_filtersInVain : vainRequest.FiltersInVain [("role", .text "admin")] := by
  refine ⟨by decide, ⟨_, List.mem_singleton_self _, by decide⟩, ?_⟩
  intro clause hclause _
  rw [List.mem_singleton.1 hclause]
  decide

/-- A clause whose condition nobody knows is skipped, and the documents that are deleted are shown all
the same. -/
theorem default_lifted_in_vain :
    ∃ plan, (documents.compile {} (allowDocuments vainRequest [("role", .text "admin")]).request
        (allowDocuments vainRequest [("role", .text "admin")]).required).result = .ok plan ∧
      ¬(plan.ShowsActiveOnly ∨ plan.FiltersActive vainRequest) := by
  refine ⟨_, compile_documents {} vainRequest [("role", .text "admin")], ?_⟩
  rw [shows_or_filters_iff, not_not]
  exact vainRequest_filtersInVain

end Entity

end CatalogSearch
