import CatalogSearch.Proofs.Conjuncts
import CatalogSearch.Proofs.Transcript

/-!
# Nobody sees more than is theirs

Whoever is no administrator searches documents and notes under a condition of visibility. Every
query that such a search sends for its page ends with that condition, bound to its own values, and
the client's conditions stand before it, each in its own parentheses. The condition is last because
the required predicates are; its values are its own because the queries are aligned; and nothing
that a client can ask for reads like it.
-/

namespace CatalogSearch

open Sql Query

/-- The user id that visibility goes by: the subject as an integer, or -1, which nobody has. -/
def Principal.ownerId (p : Principal) : Int :=
  match (p.claim "sub").toInteger with
  | .ok i => i
  | .error _ => -1

/-- The condition under which an entity is searched by someone who is no administrator, and its
values. -/
def Entity.guard (p : Principal) : Entity → Option (String × List Value)
  | documents => some ("(archive_documents_main.active = ?)", [.int 1])
  | notes =>
    some ("(notes_main.owner_user_id = ? OR notes_main.shared = ?)", [.int p.ownerId, .int 1])
  | elements => none
  | logs => none

/-- A query whose conditions end with one that no other repeats, and whose marks for that condition
stand for given values: as many marks stand before the condition as there are values before its
own, and behind both comes the window. -/
structure Query.GuardedBy (q : Query) (conditions : List String) (guard : String)
    (values window : List Value) : Prop where
  last : ∃ others, conditions = others ++ [guard] ∧ guard ∉ others
  bound : ∃ before after filters, q.text = before ++ guard ++ after ∧
    q.parameters = filters ++ values ++ window ∧ marks before = filters.length ∧
    marks guard = values.length ∧ marks after = window.length

/-- A plan both of whose queries are guarded, the data query as it is sent. -/
structure SearchPlan.GuardedBy (plan : SearchPlan) (settings : Settings) (guard : String)
    (values : List Value) : Prop where
  count : plan.countQuery.GuardedBy (conjuncts plan.countQuery.text) guard values []
  data : ∃ size offset : Int, (plan.sentQuery settings).GuardedBy
    (pageConjuncts (plan.sentQuery settings).text) guard values [.int size, .int offset]

/-! ### Plans that end with a predicate -/

theorem Predicate.enclosed_inj {p q : Predicate} (h : p.enclosed = q.enclosed) : p.sql = q.sql := by
  have hlist := congrArg String.toList h
  simp only [enclosed, String.toList_append] at hlist
  exact String.toList_inj.1 (List.append_cancel_left (List.append_cancel_right hlist))

/-- The last predicate of an aligned query guards it, also when another window takes the place of
the query's own. -/
theorem Query.Aligned.guardedBy {q sent : Query} {asked : List Predicate} {p : Predicate}
    {window sentWindow : List Value} (h : q.Aligned (asked ++ [p]) window)
    (hne : ∀ a ∈ asked, a.sql ≠ p.sql) (htext : sent.text = q.text)
    (hparameters : sent.parameters = (asked ++ [p]).flatMap (·.parameters) ++ sentWindow)
    (hlength : sentWindow.length = window.length) :
    sent.GuardedBy ((asked ++ [p]).map Predicate.enclosed) p.enclosed p.parameters sentWindow where
  last := by
    refine ⟨asked.map Predicate.enclosed, by simp, ?_⟩
    intro hmem
    obtain ⟨a, ha, henclosed⟩ := List.mem_map.1 hmem
    exact hne a ha (Predicate.enclosed_inj henclosed)
  bound := by
    obtain ⟨before, after, hplace, hbefore, hmarks⟩ := h.place asked p [] rfl
    refine ⟨before, after, asked.flatMap (·.parameters), ?_, ?_, hbefore, hmarks, ?_⟩
    · rw [htext, hplace]
    · rw [hparameters, List.flatMap_append, List.flatMap_singleton]
    · have hall := h.marks
      rw [hplace, marks_append, marks_append, hbefore, hmarks, h.parameters, List.flatMap_append,
        List.flatMap_singleton, List.length_append, List.length_append] at hall
      omega

theorem SearchPlan.guardedBy {plan : SearchPlan} (hpaired : plan.Paired)
    (hseparable : plan.Separable) {asked : List Predicate} {p : Predicate}
    (hpredicates : plan.predicates = asked ++ [p]) (hne : ∀ a ∈ asked, a.sql ≠ p.sql)
    (settings : Settings) : plan.GuardedBy settings p.enclosed p.parameters := by
  obtain ⟨htext, size, offset, hparameters⟩ := plan.sentQuery_eq settings
  have hcount := hpaired.aligned_count
  have hdata := hpaired.aligned_data
  rw [filterParameters, hpredicates] at hparameters
  rw [hpredicates] at hcount hdata
  constructor
  · rw [hseparable.conjuncts_countQuery, hpredicates]
    exact hcount.guardedBy hne rfl hcount.parameters rfl
  · rw [htext, hseparable.pageConjuncts_dataQuery, hpredicates]
    exact ⟨size, offset, hdata.guardedBy hne htext hparameters rfl⟩

/-! ### Nothing else reads like a condition of visibility -/

theorem Subquery.mem_text_open (q : Subquery) : '(' ∈ q.text.toList := by
  cases q with
  | linked rows => simp [text_linked]
  | linkedTo rows target ids => simp [text_linkedTo]
  | pathIs source path => simp [text_pathIs]
  | pathUnder source paths => simp [text_pathUnder]

/-- A shape without parentheses is a constant or a single test of a column. -/
theorem SearchTarget.Shape.cases_of_flat {t : SearchTarget} {r : Registry} {field s : String}
    (h : t.Shape r field s) (hopen : '(' ∉ s.toList) :
    s = "1=0" ∨ s = "1=1" ∨ ∃ column, t.Names r field column ∧ TestShape column s := by
  cases h with
  | column hcolumn h =>
    cases h with
    | test h => exact Or.inr (Or.inr ⟨_, hcolumn, h⟩)
    | negation h => exact absurd (by simp) hopen
    | oneOf h => exact absurd (by simp) hopen
    | noneOf h => exact absurd (by simp) hopen
  | nothing => exact Or.inl rfl
  | everything => exact Or.inr (Or.inl rfl)
  | @found k q hk h => exact absurd q.mem_text_open hopen
  | @notFound k q hk h =>
    rw [String.toList_append, List.mem_append] at hopen
    exact absurd (Or.inr q.mem_text_open) hopen

def Sql.firstWord (s : String) : List Char := s.toList.takeWhile (· != ' ')

theorem Sql.firstWord_append {column rest : String} (hcolumn : Name column)
    (hrest : rest.toList.head? = some ' ') : firstWord (column ++ rest) = column.toList := by
  have hchars : ∀ c ∈ column.toList, (c != ' ') = true := by
    intro c hc
    rw [bne_iff_ne]
    rintro rfl
    exact absurd (hcolumn.isNamePart hc) (by decide)
  obtain ⟨rest', hcons⟩ : ∃ rest', rest.toList = ' ' :: rest' := by
    cases hlist : rest.toList with
    | nil => simp [hlist] at hrest
    | cons c rest' =>
      rw [hlist] at hrest
      cases hrest
      exact ⟨rest', rfl⟩
  rw [firstWord, String.toList_append, List.takeWhile_append_of_pos hchars, hcons,
    List.takeWhile_cons_of_neg (by simp), List.append_nil]

theorem Sql.TestShape.firstWord {column s : String} (hcolumn : Name column)
    (h : TestShape column s) : firstWord s = column.toList := by
  cases h with
  | compare comparison =>
    rw [String.append_assoc, String.append_assoc]
    exact firstWord_append hcolumn (by simp)
  | contains => exact firstWord_append hcolumn (by simp)
  | isNull => exact firstWord_append hcolumn (by simp)
  | isNullOrEmpty =>
    rw [emptyTest, String.append_assoc, String.append_assoc]
    exact firstWord_append hcolumn (by simp)

theorem Sql.Name.marks {s : String} (h : Name s) : marks s = 0 := by
  apply marks_eq_zero_of_not_mem
  intro hmem
  exact absurd (h.isNamePart hmem) (by decide)

theorem Sql.TestShape.marks_le {column s : String} (hcolumn : Name column)
    (h : TestShape column s) : marks s ≤ 1 := by
  have hmarks := hcolumn.marks
  cases h with
  | compare comparison =>
    simp only [marks_append, hmarks, comparison.marks_sign]
    decide
  | contains =>
    simp only [marks_append, hmarks]
    decide
  | isNull =>
    simp only [marks_append, hmarks]
    decide
  | isNullOrEmpty =>
    simp only [emptyTest, marks_append, hmarks]
    decide

namespace Entity

/-- Only a clause on `active` comes to the condition that documents are active. -/
theorem eq_active_of_shape {field : String}
    (h : documents.target.Shape documents.registry field "archive_documents_main.active = ?") :
    field = "active" := by
  have hopen : '(' ∉ "archive_documents_main.active = ?".toList := by decide
  rcases h.cases_of_flat hopen with heq | heq | ⟨column, hnames, htest⟩
  · exact absurd heq (by decide)
  · exact absurd heq (by decide)
  · have hcolumn := htest.firstWord (hnames.name documents.target_registers
      documents.registry_named)
    have hword : firstWord "archive_documents_main.active = ?"
        = "archive_documents_main.active".toList := by decide
    rw [hword, String.toList_inj] at hcolumn
    cases hnames with
    | listed hidentifier hlisted =>
      have hlist := congrArg String.toList hcolumn
      rw [show "archive_documents_main.active" = documents.target.tableAlias ++ "." ++ "active" by
        decide] at hlist
      simp only [String.toList_append] at hlist
      exact (String.toList_inj.1 (List.append_cancel_left hlist)).symm
    | joined hk => simp [registry] at hk
    | bare hidentifier _ _ =>
      rw [← hcolumn] at hidentifier
      exact absurd hidentifier (by decide)

theorem not_shape_ownedOrShared {field : String} :
    ¬notes.target.Shape notes.registry field
      "notes_main.owner_user_id = ? OR notes_main.shared = ?" := by
  intro h
  have hopen : '(' ∉ "notes_main.owner_user_id = ? OR notes_main.shared = ?".toList := by decide
  rcases h.cases_of_flat hopen with heq | heq | ⟨column, hnames, htest⟩
  · exact absurd heq (by decide)
  · exact absurd heq (by decide)
  · have hmarks := htest.marks_le (hnames.name notes.target_registers notes.registry_named)
    exact absurd hmarks (by decide)

theorem clausePredicate_ne_activeOnly {clause : Clause} (hclause : clause.isOnActive = false)
    {q : Predicate} (hq : documents.target.clausePredicate clause = some q) :
    q.sql ≠ "archive_documents_main.active = ?" := by
  intro hsql
  obtain ⟨field, hfield, hshape⟩ := clausePredicate_shape hq
  rw [hsql] at hshape
  rw [Clause.isOnActive, hfield, eq_active_of_shape hshape] at hclause
  exact absurd hclause (by simp)

theorem clausePredicate_ne_ownedOrShared {clause : Clause} {q : Predicate}
    (hq : notes.target.clausePredicate clause = some q) :
    q.sql ≠ "notes_main.owner_user_id = ? OR notes_main.shared = ?" := by
  intro hsql
  obtain ⟨field, -, hshape⟩ := clausePredicate_shape hq
  rw [hsql] at hshape
  exact not_shape_ownedOrShared hshape

end Entity

/-! ### Searches -/

theorem Principal.isOneOf_iff {names : List String} {v : Value} :
    isOneOf names v = true ↔ ∃ name ∈ names, v = .text name := by
  cases v with
  | text t =>
    simp only [isOneOf, Option.any_eq_true, List.contains_iff_mem, Value.text.injEq]
    constructor
    · rintro ⟨name, hstring, hname⟩
      exact ⟨name, hname, Text.eq_ofString_of_string? hstring⟩
    · rintro ⟨name, hname, rfl⟩
      exact ⟨name, Text.string?_ofString name, hname⟩
  | _ => simp [isOneOf]

theorem Principal.isAdmin_eq_false {p : Principal} (h : p.claim "role" ≠ .text adminRole) :
    p.isAdmin = false := by
  rw [isAdmin, Bool.eq_false_iff, ne_eq, isOneOf_iff]
  rintro ⟨name, hname, hrole⟩
  rw [List.mem_singleton.1 hname] at hrole
  exact h hrole

namespace Entity

variable {e : Entity} {p : Principal} {guard : String} {values : List Value}

/-- Whoever is no administrator searches active documents only, without clauses on `active`. -/
theorem allowDocuments_of_regular (hadmin : p.isAdmin = false) (request : SearchRequest) :
    (allowDocuments request p).request.criteria = request.criteria.filter (!·.isOnActive) ∧
      (allowDocuments request p).required = [activeOnly] := by
  rw [allowDocuments, hadmin]
  split
  case isTrue => exact ⟨rfl, rfl⟩
  case isFalse hnone =>
    rw [List.any_eq_true] at hnone
    refine ⟨(List.filter_eq_self.2 ?_).symm, rfl⟩
    intro clause hclause
    rw [Bool.not_eq_true', Bool.eq_false_iff]
    intro hactive
    exact hnone ⟨clause, hclause, hactive⟩

theorem allowNotes_of_regular (hadmin : p.isAdmin = false) {request : SearchRequest}
    {allowed : Allowed} (hallowed : allowNotes request p = .ok allowed) :
    ∃ user : Option Int, allowed.required = [ownedOrShared user] ∧ user.getD (-1) = p.ownerId := by
  rw [allowNotes, hadmin] at hallowed
  have howner : ∀ user, p.userId? = .ok user → user.getD (-1) = p.ownerId := by
    intro user huser
    rw [Principal.userId?] at huser
    rw [Principal.ownerId]
    cases hinteger : (p.claim "sub").toInteger with
    | ok i =>
      rw [hinteger] at huser
      cases huser
      rfl
    | error failure =>
      rw [hinteger] at huser
      cases failure with
      | unbounded => cases huser
      | _ => cases huser; rfl
  cases huser : p.userId? with
  | error failure =>
    rw [huser] at hallowed
    cases hallowed
  | ok user =>
    rw [huser] at hallowed
    cases hallowed
    exact ⟨user, rfl, howner user huser⟩

/-- Without the role of an administrator there is one required predicate. It is the condition of
visibility, and no clause that is let through comes to the same SQL. -/
theorem allow_guarded (hrole : p.claim "role" ≠ .text Principal.adminRole)
    (hguard : e.guard p = some (guard, values)) {request : SearchRequest} {allowed : Allowed}
    (hallowed : e.allow request p = .ok allowed) :
    ∃ build, allowed.required = [build] ∧ (build e.target.tableAlias).Paired ∧
      (e.target.requiredPredicate build).enclosed = guard ∧
      (e.target.requiredPredicate build).parameters = values ∧
      ∀ clause ∈ allowed.request.criteria, ∀ q, e.target.clausePredicate clause = some q →
        q.sql ≠ (e.target.requiredPredicate build).sql := by
  have hadmin := Principal.isAdmin_eq_false hrole
  cases e with
  | documents =>
    cases hguard
    cases hallowed
    obtain ⟨hcriteria, hrequired⟩ := allowDocuments_of_regular hadmin request
    have hsql : (documents.target.requiredPredicate activeOnly).sql
        = "archive_documents_main.active = ?" := text_activeOnly
    refine ⟨activeOnly, hrequired, ⟨show marks _ = _ by decide, by simp [activeOnly]⟩, ?_, rfl, ?_⟩
    · rw [Predicate.enclosed, hsql]
      rfl
    · intro clause hclause q hq
      rw [hcriteria, List.mem_filter, Bool.not_eq_true'] at hclause
      rw [hsql]
      exact clausePredicate_ne_activeOnly hclause.2 hq
  | notes =>
    cases hguard
    obtain ⟨user, hrequired, howner⟩ := allowNotes_of_regular hadmin hallowed
    have hsql : (notes.target.requiredPredicate (ownedOrShared user)).sql
        = "notes_main.owner_user_id = ? OR notes_main.shared = ?" := text_ownedOrShared user
    refine ⟨ownedOrShared user, hrequired, ⟨?_, by simp [ownedOrShared]⟩, ?_, ?_, ?_⟩
    · show marks "notes_main.owner_user_id = ? OR notes_main.shared = ?" = 2
      decide
    · rw [Predicate.enclosed, hsql]
      rfl
    · rw [← howner]
      rfl
    · intro clause _ q hq
      rw [hsql]
      exact clausePredicate_ne_ownedOrShared hq
  | elements => cases hguard
  | logs => cases hguard

/-- Visibility cannot be bypassed. Whoever is no administrator and searches documents or notes
sends nothing, or sends, up to where something fails, the count query and the data query of the
plan and a query for related rows; and whatever the request asks for and the store answers, both
queries of the plan are guarded by the condition of visibility. -/
theorem search_guarded (hrole : p.claim "role" ≠ .text Principal.adminRole)
    (hguard : e.guard p = some (guard, values)) (settings : Settings) (request : SearchRequest) :
    (e.search settings request p).Sends fun _ sent => sent = [] ∨
      ∃ allowed plan, e.allow request p = .ok allowed ∧
        (e.compile settings allowed.request allowed.required).result = .ok plan ∧
        plan.GuardedBy settings guard values ∧
        ∃ related, (∀ q ∈ related, e.Loads q) ∧ related.length ≤ 1 ∧
          sent <+: plan.countQuery :: plan.sentQuery settings :: related := by
  refine (e.search_sends settings request p).mono ?_
  rintro r sent (rfl | ⟨allowed, plan, hallowed, hplan, related, hrelated, hlength, hsent⟩)
  · exact Or.inl rfl
  · obtain ⟨build, hrequired, hbuild, rfl, rfl, hne⟩ := allow_guarded hrole hguard hallowed
    obtain ⟨_, hcompiled, hseparable, hpredicates⟩ :=
      compile_separable hallowed settings allowed.request
    cases hplan.symm.trans hcompiled
    have hbuilds : ∀ b ∈ allowed.required, (b e.target.tableAlias).Paired := by
      rw [hrequired]
      intro b hb
      rw [List.mem_singleton.1 hb]
      exact hbuild
    obtain ⟨_, hcompiled, hpaired⟩ := SearchTarget.compile_paired e.target_registers
      e.target_unmarked settings allowed.request hbuilds
    cases hplan.symm.trans hcompiled
    rw [hrequired, List.map_singleton] at hpredicates
    have hother : ∀ a ∈ allowed.request.criteria.filterMap e.target.clausePredicate,
        a.sql ≠ (e.target.requiredPredicate build).sql := by
      intro a ha
      obtain ⟨clause, hclause, ha⟩ := List.mem_filterMap.1 ha
      exact hne clause hclause a ha
    exact Or.inr ⟨allowed, plan, hallowed, hplan,
      plan.guardedBy hpaired hseparable hpredicates hother settings, related, hrelated, hlength,
      hsent⟩

theorem search_guarded_notes :
    Principal.claim [("sub", .text "7")] "role" ≠ .text Principal.adminRole ∧
      notes.guard [("sub", .text "7")]
        = some ("(notes_main.owner_user_id = ? OR notes_main.shared = ?)", [.int 7, .int 1]) ∧
      (notes.search {}
          { criteria :=
              [{ field := "owner_user_id", condition := "EQ", value := .int 1 },
                { field := "shared", condition := "EQ", value := .bool false, negate := true }] }
          [("sub", .text "7")]).Sends fun _ sent => sent = [] ∨
        ∃ plan : SearchPlan, plan.GuardedBy {}
            "(notes_main.owner_user_id = ? OR notes_main.shared = ?)" [.int 7, .int 1] ∧
          ∃ related, (∀ q ∈ related, notes.Loads q) ∧ related.length ≤ 1 ∧
            sent <+: plan.countQuery :: plan.sentQuery {} :: related := by
  have hrole : Principal.claim [("sub", .text "7")] "role" ≠ .text Principal.adminRole := nofun
  have hguard : notes.guard [("sub", .text "7")]
      = some ("(notes_main.owner_user_id = ? OR notes_main.shared = ?)", [.int 7, .int 1]) := rfl
  refine ⟨hrole, hguard, (search_guarded hrole hguard {} _).mono ?_⟩
  rintro r sent (rfl | ⟨allowed, plan, -, -, hplan, hrelated⟩)
  · exact Or.inl rfl
  · exact Or.inr ⟨plan, hplan, hrelated⟩

end Entity

end CatalogSearch
