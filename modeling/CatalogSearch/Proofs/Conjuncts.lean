import CatalogSearch.Entity.Search
import CatalogSearch.Proofs.Pairing
import CatalogSearch.Proofs.Sql.Shape

/-!
# The conditions that a query joins

A query is read as the store reads it: from the first `WHERE` on, taken apart at every `AND` that
stands outside parentheses. What comes out is exactly the list of the plan's predicates in their
parentheses. None is split, and none runs into the next, because every predicate is inert.
-/

namespace CatalogSearch

open Sql

namespace Query

def behindWhere (text : String) : Option (List Char) := afterFirst "WHERE ".toList text.toList

/-- The conditions between the `AND`s outside parentheses. -/
def splitConditions (cs : List Char) : List String :=
  (splitTop " AND ".toList 0 0 cs).map String.ofList

def conjuncts (text : String) : List String :=
  match behindWhere text with
  | none => []
  | some cs => splitConditions cs

/-- The conditions of a data query, which end before its `ORDER BY`. -/
def pageConjuncts (text : String) : List String :=
  match behindWhere text with
  | none => []
  | some cs => splitConditions ((splitTop " ORDER BY ".toList 0 0 cs).headD [])

end Query

/-- A plan whose queries come apart as they were put together: no text around the predicates has a
capital `W`, and each predicate closes the parentheses that it opens. -/
structure SearchPlan.Separable (plan : SearchPlan) : Prop where
  countHead : 'W' ∉ plan.countHead.toList
  dataHead : 'W' ∉ plan.dataHead.toList
  dataTail : 'W' ∉ plan.dataTail.toList
  tables : 'W' ∉ plan.tables.toList
  balanced : ∀ p ∈ plan.predicates, Balanced p.sql

namespace SearchPlan

variable {plan : SearchPlan}

theorem filter_eq_conjunction (plan : SearchPlan) :
    plan.filter = conjunction (plan.predicates.map (·.sql)) := by
  rw [filter, conjunction, List.map_map]
  rfl

theorem behindWhere_source (htables : 'W' ∉ plan.tables.toList) {start : String}
    (hstart : 'W' ∉ start.toList) (hne : plan.predicates ≠ []) (finish : String) :
    Query.behindWhere (start ++ plan.source ++ finish)
      = some (plan.filter.toList ++ finish.toList) := by
  have hfront : 'W' ∉ (start ++ plan.tables ++ " ").toList := by
    simp only [String.toList_append, List.mem_append]
    rintro ((h | h) | h)
    · exact hstart h
    · exact htables h
    · exact absurd h (by decide)
  have htext : (start ++ plan.source ++ finish).toList
      = (start ++ plan.tables ++ " ").toList ++
          ("WHERE ".toList ++ (plan.filter.toList ++ finish.toList)) := by
    rw [source_of_ne_nil hne]
    simp only [String.toList_append, List.append_assoc]
  rw [Query.behindWhere, htext, afterFirst_append (by rfl) hfront]

theorem behindWhere_of_nil (htables : 'W' ∉ plan.tables.toList) {start finish : String}
    (hstart : 'W' ∉ start.toList) (hfinish : 'W' ∉ finish.toList) (hnil : plan.predicates = []) :
    Query.behindWhere (start ++ plan.source ++ finish) = none := by
  rw [Query.behindWhere, source_of_nil hnil]
  apply afterFirst_eq_none (c := 'W') (by rfl)
  simp only [String.toList_append, List.mem_append]
  rintro ((h | h) | h)
  · exact hstart h
  · exact htables h
  · exact hfinish h

theorem splitConditions_filter (hne : plan.predicates ≠ [])
    (hbalanced : ∀ p ∈ plan.predicates, Balanced p.sql) :
    Query.splitConditions plan.filter.toList = plan.predicates.map Predicate.enclosed := by
  obtain ⟨p, ps, hps⟩ := List.exists_cons_of_ne_nil hne
  rw [Query.splitConditions, filter_eq_conjunction]
  rw [hps] at hbalanced ⊢
  rw [List.map_cons, splitTop_conjunction, List.map_map, ← List.map_cons, List.map_map]
  · apply List.map_congr_left
    intro q hq
    exact String.ofList_toList
  · intro s hs
    rw [← List.map_cons (f := fun p : Predicate => p.sql)] at hs
    obtain ⟨q, hq, rfl⟩ := List.mem_map.1 hs
    exact hbalanced q hq

/-- The conditions of a count query are the predicates of the plan. -/
theorem Separable.conjuncts_countQuery (h : plan.Separable) :
    Query.conjuncts plan.countQuery.text = plan.predicates.map Predicate.enclosed := by
  have htext : plan.countQuery.text = plan.countHead ++ plan.source ++ "" := by
    rw [countQuery_text, String.append_empty]
  rw [Query.conjuncts, htext]
  by_cases hnil : plan.predicates = []
  · rw [behindWhere_of_nil h.tables h.countHead (by decide) hnil, hnil]
    rfl
  · rw [behindWhere_source h.tables h.countHead hnil, String.toList_empty, List.append_nil]
    exact splitConditions_filter hnil h.balanced

theorem Separable.pageConjuncts_dataQuery (h : plan.Separable) :
    Query.pageConjuncts plan.dataQuery.text = plan.predicates.map Predicate.enclosed := by
  rw [dataQuery_text, Query.pageConjuncts]
  by_cases hnil : plan.predicates = []
  · rw [behindWhere_of_nil h.tables h.dataHead h.dataTail hnil, hnil]
    rfl
  · have htail : plan.dataTail.toList = " ORDER BY ".toList ++
        (plan.tableAlias ++ "." ++ plan.primaryKey ++ " DESC LIMIT ? OFFSET ?").toList := by
      unfold SearchPlan.dataTail
      simp only [String.toList_append, List.append_assoc]
    have hcut : splitTop " ORDER BY ".toList 0 0 (plan.filter.toList ++ plan.dataTail.toList)
        = plan.filter.toList :: splitTop " ORDER BY ".toList 0 0
            (plan.tableAlias ++ "." ++ plan.primaryKey ++ " DESC LIMIT ? OFFSET ?").toList := by
      obtain ⟨p, ps, hps⟩ := List.exists_cons_of_ne_nil hnil
      have hbalanced : ∀ s ∈ plan.predicates.map (·.sql), Balanced s := by
        intro s hs
        obtain ⟨q, hq, rfl⟩ := List.mem_map.1 hs
        exact h.balanced q hq
      rw [htail, filter_eq_conjunction]
      rw [hps, List.map_cons] at hbalanced ⊢
      exact splitTop_orderBy hbalanced _
    rw [behindWhere_source h.tables h.dataHead hnil]
    simp only [hcut]
    exact splitConditions_filter hnil h.balanced

end SearchPlan

/-! ### Plans of the entities -/

theorem not_mem_intercalate {c : Char} {sep : String} (hsep : c ∉ sep.toList) {xs : List String}
    (hxs : ∀ x ∈ xs, c ∉ x.toList) : c ∉ (String.intercalate sep xs).toList := by
  intro hmem
  have hne : ∀ d ∈ (String.intercalate sep xs).toList, d ≠ c := by
    refine forall_mem_intercalate ?_ ?_
    · rintro d hd rfl
      exact hsep hd
    · rintro x hx d hd rfl
      exact hxs x hx hd
  exact hne c hmem rfl

/-- A join that a criterion needs is that of a registered column. -/
theorem SearchTarget.Emits.join {t : SearchTarget} {r : Registry} (hnamed : r.Named)
    {field : String} {f : Fragment} (h : t.Emits r field f) {j : String} (hj : f.join = some j) :
    ∃ joinClause column, (field, .joinedColumn joinClause column) ∈ r ∧
      j = Template.expand joinClause t.tableAlias := by
  cases h with
  | handled hk h =>
    cases h with
    | emptySet _ => cases hj
    | subquery _ _ => cases hj
    | joinedLink _ => exact absurd (hnamed.links _ hk) (by simp [HandlerKind.joinsLinks])
    | column _ =>
      cases hj
      exact ⟨_, _, hk, rfl⟩
  | listed _ _ _ => cases hj
  | bare _ _ _ _ => cases hj

namespace Entity

theorem not_mem_table (e : Entity) : 'W' ∉ e.target.table.toList := by cases e <;> decide

theorem not_mem_tableAlias (e : Entity) : 'W' ∉ e.target.tableAlias.toList := by
  have hmain : 'W' ∉ "_main".toList := by decide
  simp only [SearchTarget.tableAlias, mainAlias, String.toList_append, List.mem_append, not_or]
  exact ⟨e.not_mem_table, hmain⟩

theorem not_mem_keyColumn (e : Entity) : 'W' ∉ e.target.keyColumn.toList := by cases e <;> decide

theorem not_mem_noteOwnerJoin : 'W' ∉ noteOwnerJoin.toList := by simp [noteOwnerJoin]

theorem not_mem_elementComponentJoin : 'W' ∉ elementComponentJoin.toList := by
  unfold elementComponentJoin
  rw [String.toList_append]
  simp

theorem not_mem_extraJoins (e : Entity) : ∀ template ∈ e.target.extraJoins, 'W' ∉ template.toList := by
  cases e with
  | documents => simp [target, documentsTarget]
  | notes => simpa [target, notesTarget] using not_mem_noteOwnerJoin
  | elements => simpa [target, elementsTarget] using not_mem_elementComponentJoin
  | logs => simp [target, logsTarget]

theorem not_mem_extraColumns (e : Entity) :
    ∀ template ∈ e.target.extraColumns, 'W' ∉ template.toList := by
  cases e <;> simp [target, documentsTarget, notesTarget, elementsTarget, logsTarget]

theorem joinClause_mem_extraJoins {e : Entity} {field joinClause column : String}
    (h : (field, .joinedColumn joinClause column) ∈ e.registry) :
    joinClause ∈ e.target.extraJoins := by
  cases e with
  | documents => simp [registry] at h
  | notes => simp_all [registry, target, notesTarget]
  | elements => simp_all [registry, target, elementsTarget]
  | logs => simp [registry] at h

theorem not_mem_expand (e : Entity) {template : String} (h : 'W' ∉ template.toList) :
    'W' ∉ (Template.expand template e.target.tableAlias).toList := by
  rw [Template.expand, String.toList_ofList]
  intro hmem
  exact (Template.mem_expandChars hmem).elim e.not_mem_tableAlias h

/-- The plan of an entity is separable if its required predicates are balanced and need no join. -/
theorem plan_separable (e : Entity) (window : Int × Int) {asked required : List Fragment}
    (hasked : ∀ f ∈ asked, ∃ field, e.target.Emits e.registry field f)
    (hrequired : ∀ f ∈ required, f.join = none ∧ Balanced (Predicate.trimmed f.condition).sql) :
    (e.target.plan window (e.target.extraJoins.map (Template.expand · e.target.tableAlias))
      (asked ++ required)
      (e.target.extraColumns.map (Template.expand · e.target.tableAlias))).Separable where
  countHead := by
    have hselect : 'W' ∉ "SELECT COUNT(DISTINCT ".toList := by decide
    have htotal : 'W' ∉ ") AS total ".toList := by decide
    have hdot : 'W' ∉ ".".toList := by decide
    unfold SearchPlan.countHead
    simp only [String.toList_append, List.mem_append, not_or]
    exact ⟨⟨⟨⟨hselect, e.not_mem_tableAlias⟩, hdot⟩, e.not_mem_keyColumn⟩, htotal⟩
  dataHead := by
    have hselect : 'W' ∉ "SELECT DISTINCT ".toList := by decide
    have hstar : 'W' ∉ ".*".toList := by decide
    have hblank : 'W' ∉ " ".toList := by decide
    unfold SearchPlan.dataHead
    simp only [String.toList_append, List.mem_append, not_or]
    refine ⟨⟨hselect, not_mem_intercalate (by decide) ?_⟩, hblank⟩
    intro s hs
    rcases List.mem_cons.1 hs with rfl | hs
    · simp only [String.toList_append, List.mem_append, not_or]
      exact ⟨e.not_mem_tableAlias, hstar⟩
    · obtain ⟨template, htemplate, rfl⟩ := List.mem_map.1 hs
      exact e.not_mem_expand (e.not_mem_extraColumns _ htemplate)
  dataTail := by
    have horder : 'W' ∉ " ORDER BY ".toList := by decide
    have hdot : 'W' ∉ ".".toList := by decide
    have hlimit : 'W' ∉ " DESC LIMIT ? OFFSET ?".toList := by decide
    unfold SearchPlan.dataTail
    simp only [String.toList_append, List.mem_append, not_or]
    exact ⟨⟨horder, ⟨e.not_mem_tableAlias, hdot⟩, e.not_mem_keyColumn⟩, hlimit⟩
  tables := by
    have hfrom : 'W' ∉ "FROM ".toList := by decide
    have has : 'W' ∉ " AS ".toList := by decide
    refine not_mem_intercalate (by decide) ?_
    intro s hs
    rcases List.mem_cons.1 hs with rfl | hs
    · simp only [String.toList_append, List.mem_append, not_or]
      exact ⟨⟨⟨hfrom, e.not_mem_table⟩, has⟩, e.not_mem_tableAlias⟩
    · suffices h : ∃ template ∈ e.target.extraJoins,
          s = Template.expand template e.target.tableAlias by
        obtain ⟨template, htemplate, rfl⟩ := h
        exact e.not_mem_expand (e.not_mem_extraJoins _ htemplate)
      rcases mem_of_mem_foldl_addJoin hs with hs | hs
      · cases hs
      · rcases List.mem_append.1 hs with hs | hs
        · obtain ⟨template, htemplate, rfl⟩ := List.mem_map.1 hs
          exact ⟨template, htemplate, rfl⟩
        · obtain ⟨f, hf, hs⟩ := List.mem_flatMap.1 hs
          rcases List.mem_append.1 hf with hf | hf
          · obtain ⟨field, hemits⟩ := hasked f hf
            obtain ⟨joinClause, column, hk, rfl⟩ :=
              hemits.join e.registry_named (Option.mem_toList.1 hs)
            exact ⟨joinClause, joinClause_mem_extraJoins hk, rfl⟩
          · rw [(hrequired f hf).1] at hs
            cases hs
  balanced := by
    intro p hp
    obtain ⟨f, hf, rfl⟩ := List.mem_map.1 hp
    rcases List.mem_append.1 hf with hf | hf
    · obtain ⟨field, hemits⟩ := hasked f hf
      exact ((hemits.shape_trimmed e.target_registers e.registry_named).inert e.target_registers
        e.registry_named).balanced
    · exact (hrequired f hf).2

/-! ### Required predicates -/

theorem text_activeOnly :
    (Predicate.trimmed (activeOnly documentsTarget.tableAlias).condition).sql
      = "archive_documents_main.active = ?" := by decide

theorem text_ownedOrShared (user : Option Int) :
    (Predicate.trimmed (ownedOrShared user notesTarget.tableAlias).condition).sql
      = "notes_main.owner_user_id = ? OR notes_main.shared = ?" := by
  show Text.trim "notes_main.owner_user_id = ? OR notes_main.shared = ?" = _
  decide

theorem required_cases {e : Entity} {asked : SearchRequest} {p : Principal} {allowed : Allowed}
    (hallowed : e.allow asked p = .ok allowed) {build : String → Fragment}
    (hbuild : build ∈ allowed.required) :
    (e = documents ∧ build = activeOnly) ∨ e = notes ∧ ∃ user, build = ownedOrShared user := by
  cases e with
  | documents =>
    cases hallowed
    rw [allowDocuments] at hbuild
    split at hbuild
    · split at hbuild
      · cases hbuild
      · exact Or.inl ⟨rfl, List.mem_singleton.1 hbuild⟩
    · exact Or.inl ⟨rfl, List.mem_singleton.1 hbuild⟩
  | notes =>
    rw [allow, allowNotes] at hallowed
    split at hallowed
    · cases hallowed
      cases hbuild
    · split at hallowed
      case h_1 user _ =>
        cases hallowed
        exact Or.inr ⟨rfl, user, List.mem_singleton.1 hbuild⟩
      case h_2 => cases hallowed
  | elements =>
    cases hallowed
    cases hbuild
  | logs =>
    cases hallowed
    cases hbuild

theorem required_inert {e : Entity} {asked : SearchRequest} {p : Principal} {allowed : Allowed}
    (hallowed : e.allow asked p = .ok allowed) {build : String → Fragment}
    (hbuild : build ∈ allowed.required) :
    (build e.target.tableAlias).join = none ∧
      Inert (Predicate.trimmed (build e.target.tableAlias).condition).sql := by
  rcases required_cases hallowed hbuild with ⟨rfl, rfl⟩ | ⟨rfl, user, rfl⟩
  · have hflat : Flat "archive_documents_main.active = ?" := by decide
    refine ⟨rfl, ?_⟩
    rw [show documents.target = documentsTarget from rfl, text_activeOnly]
    exact hflat.nested.inert
  · have hflat : Flat "notes_main.owner_user_id = ? OR notes_main.shared = ?" := by decide
    refine ⟨rfl, ?_⟩
    rw [show notes.target = notesTarget from rfl, text_ownedOrShared]
    exact hflat.nested.inert

theorem required_paired {e : Entity} {asked : SearchRequest} {p : Principal} {allowed : Allowed}
    (hallowed : e.allow asked p = .ok allowed) :
    ∀ build ∈ allowed.required, (build e.target.tableAlias).Paired := by
  intro build hbuild
  rcases required_cases hallowed hbuild with ⟨rfl, rfl⟩ | ⟨rfl, user, rfl⟩
  · exact ⟨show Query.marks _ = _ by decide, by simp [activeOnly]⟩
  · refine ⟨?_, by simp [ownedOrShared]⟩
    show Query.marks "notes_main.owner_user_id = ? OR notes_main.shared = ?" = 2
    decide

end Entity

def SearchTarget.clausePredicate (t : SearchTarget) (clause : Clause) : Option Predicate :=
  (t.clauseFragment clause).map fun f => .trimmed f.condition

def SearchTarget.requiredPredicate (t : SearchTarget) (build : String → Fragment) : Predicate :=
  .trimmed (build t.tableAlias).condition

namespace Entity

theorem clausePredicate_shape {e : Entity} {clause : Clause} {q : Predicate}
    (h : e.target.clausePredicate clause = some q) :
    ∃ field, clause.field = Text.ofString field ∧ e.target.Shape e.registry field q.sql := by
  obtain ⟨f, hf, rfl⟩ := Option.map_eq_some_iff.1 h
  obtain ⟨field, hfield, hemits⟩ := SearchTarget.clauseFragment_emits e.target_registers hf
  exact ⟨field, hfield, hemits.shape_trimmed e.target_registers e.registry_named⟩

theorem compile_separable {e : Entity} {asked : SearchRequest} {p : Principal} {allowed : Allowed}
    (hallowed : e.allow asked p = .ok allowed) (settings : Settings) (request : SearchRequest) :
    ∃ plan, (e.compile settings request allowed.required).result = .ok plan ∧ plan.Separable ∧
      plan.predicates = request.criteria.filterMap e.target.clausePredicate ++
        allowed.required.map e.target.requiredPredicate := by
  refine ⟨_, SearchTarget.compile_registered e.target_registers settings request allowed.required,
    e.plan_separable _ ?_ ?_, ?_⟩
  · intro f hf
    obtain ⟨clause, -, hclause⟩ := List.mem_filterMap.1 hf
    obtain ⟨field, -, hemits⟩ := SearchTarget.clauseFragment_emits e.target_registers hclause
    exact ⟨field, hemits⟩
  · intro f hf
    obtain ⟨build, hbuild, rfl⟩ := List.mem_map.1 hf
    obtain ⟨hjoin, hinert⟩ := required_inert hallowed hbuild
    exact ⟨hjoin, hinert.balanced⟩
  · show List.map _ _ = _
    rw [List.map_append, List.map_filterMap, List.map_map]
    rfl

/-- The predicates of a search are joined by `AND`, and nothing that a client sends gets out of
its own. Taken apart outside parentheses, the count query gives back the predicates: those of the
clauses in their order, then the required ones. The predicate of a clause has one of the shapes for
the field of the clause, and every predicate is inert. -/
theorem compile_conjuncts {e : Entity} {asked : SearchRequest} {p : Principal} {allowed : Allowed}
    (hallowed : e.allow asked p = .ok allowed) (settings : Settings) (request : SearchRequest) :
    ∃ plan, (e.compile settings request allowed.required).result = .ok plan ∧
      Query.conjuncts plan.countQuery.text = plan.predicates.map Predicate.enclosed ∧
      plan.predicates = request.criteria.filterMap e.target.clausePredicate ++
        allowed.required.map e.target.requiredPredicate ∧
      (∀ clause ∈ request.criteria, ∀ q, e.target.clausePredicate clause = some q →
        ∃ field, clause.field = Text.ofString field ∧ e.target.Shape e.registry field q.sql) ∧
      ∀ q ∈ plan.predicates, Inert q.sql := by
  obtain ⟨plan, hplan, hseparable, hpredicates⟩ := compile_separable hallowed settings request
  refine ⟨plan, hplan, hseparable.conjuncts_countQuery, hpredicates,
    fun _ _ _ hq => clausePredicate_shape hq, ?_⟩
  intro q hq
  rw [hpredicates] at hq
  rcases List.mem_append.1 hq with hq | hq
  · obtain ⟨clause, -, hq⟩ := List.mem_filterMap.1 hq
    obtain ⟨field, -, hshape⟩ := clausePredicate_shape hq
    exact hshape.inert e.target_registers e.registry_named
  · obtain ⟨build, hbuild, rfl⟩ := List.mem_map.1 hq
    exact (required_inert hallowed hbuild).2

/-- A search for documents with a field that the target does not know and with two paths. -/
theorem compile_conjuncts_documents :
    documents.allow {} [] = .ok (allowDocuments {} []) ∧
      ∃ plan, (documents.compile {}
          { criteria :=
              [{ field := "owner_login", condition := "IS_EMPTY", negate := true },
                { field := "descriptive_signature_prefix", condition := "any_of",
                  value := .list [.list [.int 1, .int 2], .list [.int 3]] }] }
          (allowDocuments {} []).required).result = .ok plan ∧
        Query.conjuncts plan.countQuery.text = plan.predicates.map Predicate.enclosed ∧
        ∀ q ∈ plan.predicates, Inert q.sql := by
  have hallowed : documents.allow {} [] = .ok (allowDocuments {} []) := rfl
  obtain ⟨plan, hplan, hconjuncts, -, -, hinert⟩ := compile_conjuncts hallowed {} _
  exact ⟨hallowed, plan, hplan, hconjuncts, hinert⟩

end Entity

end CatalogSearch
