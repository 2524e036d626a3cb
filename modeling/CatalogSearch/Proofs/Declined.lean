import CatalogSearch.Entity.Visibility
import CatalogSearch.Proofs.Compilation

/-!
# Handlers that decline

The shape of a value is checked in one of two places. Without a handler the check stands at the
front, before there is a criterion. With a handler the criterion is made first, because the handler
may take shapes that a column does not, and the check is made up for on the way to the column when
the handler declines. On a listed field the two places come to the same fragment, whatever the
operator and the value are, so a handler changes nothing but the clauses that it answers
(`compile_withoutHandler`).
-/

namespace CatalogSearch

/-! ### The two places of the check -/

/-- The check at the front is the same as making the criterion first and checking it then. -/
theorem Clause.toCriterion_false (clause : Clause) :
    clause.toCriterion false = clause.toCriterion true >>= fun c =>
      if c.operator.fits c.value then .ok c
      else .error (.misfit c.field c.value c.operator) := by
  rw [toCriterion, toCriterion]
  cases Operator.ofCondition? clause.condition with
  | none => rfl
  | some op =>
    cases clause.field.identifier? with
    | none => rfl
    | some field =>
      cases hfits : op.fits clause.value <;> simp [bind, Except.bind, hfits]

namespace SearchTarget

variable {t : SearchTarget} {field : String} {clause : Clause}

def withoutHandler (t : SearchTarget) (field : String) : SearchTarget :=
  { t with handlers := t.handlers.filter (·.1 != field) }

theorem lookup_filter_ne {α : Type} (entries : List (String × α)) (field name : String) :
    (entries.filter (·.1 != field)).lookup name
      = if name = field then none else entries.lookup name := by
  induction entries with
  | nil => simp
  | cons entry entries ih =>
    obtain ⟨key, value⟩ := entry
    by_cases hkey : key = field
    · rw [List.filter_cons_of_neg (by simp [hkey]), ih, hkey]
      by_cases hname : name = field
      · rw [if_pos hname, if_pos hname]
      · rw [if_neg hname, if_neg hname, List.lookup_cons, beq_eq_false_iff_ne.2 hname]
    · rw [List.filter_cons_of_pos (by simp [hkey]), List.lookup_cons, List.lookup_cons, ih]
      by_cases hname : name = key
      · simp [hname, hkey]
      · rw [beq_eq_false_iff_ne.2 hname]

theorem lookup_withoutHandler (t : SearchTarget) (field name : String) :
    (t.withoutHandler field).handlers.lookup name
      = if name = field then none else t.handlers.lookup name :=
  lookup_filter_ne t.handlers field name

theorem outcome_withoutHandler_self {c : Criterion} (hfield : c.field = field) :
    (t.withoutHandler field).outcome c = t.plainOutcome c := by
  rw [outcome, lookup_withoutHandler, if_pos hfield]
  rfl

theorem outcome_withoutHandler_other {c : Criterion} (hfield : c.field ≠ field) :
    (t.withoutHandler field).outcome c = t.outcome c := by
  rw [outcome, outcome, lookup_withoutHandler, if_neg hfield]
  rfl

/-- Clauses on other fields do not notice that the handler is gone. -/
theorem clauseOutcome_withoutHandler_other (hfield : clause.field ≠ Text.ofString field) :
    (t.withoutHandler field).clauseOutcome clause = t.clauseOutcome clause := by
  have hraw : clause.field.string?.any (t.withoutHandler field).isHandled
      = clause.field.string?.any t.isHandled := by
    cases hname : clause.field.string? with
    | none => rfl
    | some name =>
      have hne : name ≠ field := by
        intro heq
        exact hfield (heq ▸ Text.eq_ofString_of_string? hname)
      rw [Option.any_some, Option.any_some, isHandled, isHandled, lookup_withoutHandler,
        if_neg hne]
  rw [clauseOutcome, clauseOutcome, hraw]
  cases hc : clause.toCriterion (clause.field.string?.any t.isHandled) with
  | error n => rfl
  | ok c =>
    obtain ⟨-, hname, -⟩ := Clause.toCriterion_eq_ok hc
    refine outcome_withoutHandler_other ?_
    intro heq
    exact hfield (heq ▸ hname)

end SearchTarget

/-- Whether a handler leaves a clause to the column, if the clause gets as far as the handler. -/
def Handler.declines (handler : Handler) (tableAlias : String) (clause : Clause) : Bool :=
  match clause.toCriterion true with
  | .error _ => true
  | .ok c =>
    match handler c tableAlias with
    | .ok o => o.fragment.isNone
    | .error _ => false

theorem Handler.of_declines {handler : Handler} {tableAlias : String} {clause : Clause}
    {c : Criterion} (h : handler.declines tableAlias clause = true)
    (hc : clause.toCriterion true = .ok c) :
    ∃ notices, handler c tableAlias = .ok ⟨notices, none⟩ := by
  rw [declines, hc] at h
  dsimp only at h
  split at h
  case h_1 o ho =>
    obtain ⟨notices, fragment⟩ := o
    obtain rfl : fragment = none := Option.isNone_iff_eq_none.1 h
    exact ⟨notices, ho⟩
  case h_2 => cases h

namespace SearchTarget

variable {t : SearchTarget} {field : String} {clause : Clause}

/-- A criterion that its handler declines goes on to its column, if it is listed. -/
theorem outcome_of_declined {c : Criterion} {handler : Handler} {notices : List Notice}
    (hhandler : t.handlers.lookup c.field = some handler) (hlisted : c.field ∈ t.fields)
    (hdeclined : handler c t.tableAlias = .ok ⟨notices, none⟩) :
    t.outcome c
      = (t.plainOutcome c).map fun o => { o with notices := notices ++ o.notices } := by
  rw [outcome, hhandler]
  dsimp only
  rw [hdeclined]
  exact if_pos (List.contains_iff_mem.2 hlisted)

theorem fragment_withoutHandler {handler : Handler} (hlisted : field ∈ t.fields)
    (hhandler : t.handlers.lookup field = some handler)
    (hdeclines : clause.field = Text.ofString field →
      handler.declines t.tableAlias clause = true) :
    ((t.withoutHandler field).clauseOutcome clause).map (·.fragment)
      = (t.clauseOutcome clause).map (·.fragment) := by
  by_cases hfield : clause.field = Text.ofString field
  case neg => rw [clauseOutcome_withoutHandler_other hfield]
  case pos =>
    have hlate : clause.field.string?.any t.isHandled = true := by
      rw [hfield, Text.string?_ofString, Option.any_some, isHandled, hhandler]
      rfl
    have hearly : clause.field.string?.any (t.withoutHandler field).isHandled = false := by
      rw [hfield, Text.string?_ofString, Option.any_some, isHandled, lookup_withoutHandler,
        if_pos rfl]
      rfl
    rw [clauseOutcome, clauseOutcome, hlate, hearly, Clause.toCriterion_false]
    cases hc : clause.toCriterion true with
    | error n => rfl
    | ok c =>
      obtain ⟨hop, hname, -⟩ := Clause.toCriterion_eq_ok hc
      obtain rfl : c.field = field := by
        have hstring := congrArg Text.string? (hname.symm.trans hfield)
        rw [Text.string?_ofString, Text.string?_ofString] at hstring
        exact Option.some.inj hstring
      obtain ⟨notices, hdeclined⟩ := Handler.of_declines (hdeclines hfield) hc
      dsimp only [bind, Except.bind]
      rw [outcome_of_declined hhandler hlisted hdeclined]
      -- the check at the front and the one on the way to the column agree on what fits
      cases hfits : c.operator.fits c.value with
      | true =>
        rw [if_pos rfl]
        dsimp only
        rw [outcome_withoutHandler_self rfl]
        cases t.plainOutcome c <;> rfl
      | false =>
        have hunfit := Criterion.plain_of_unfit (Operator.mem_all_of_ofCondition? hop) hfits
        rw [if_neg Bool.false_ne_true, plainOutcome, if_pos (List.contains_iff_mem.2 hlisted),
          hunfit]
        rfl

theorem fragments_congr {t' : SearchTarget} {clauses : List Clause}
    (h : ∀ clause ∈ clauses, (t'.clauseOutcome clause).map (·.fragment)
      = (t.clauseOutcome clause).map (·.fragment)) :
    t'.fragments clauses = t.fragments clauses := by
  induction clauses with
  | nil => rfl
  | cons clause clauses ih =>
    have hhead := h clause List.mem_cons_self
    have htail := ih fun d hd => h d (List.mem_cons_of_mem clause hd)
    rw [fragments_cons, fragments_cons, htail]
    cases ho : t.clauseOutcome clause with
    | error e =>
      cases ho' : t'.clauseOutcome clause with
      | error e' =>
        rw [ho, ho'] at hhead
        cases hhead
        rfl
      | ok o' =>
        rw [ho, ho'] at hhead
        cases hhead
    | ok o =>
      obtain ⟨o', ho', hfragment⟩ := exists_of_map_eq_ok (hhead.trans (by rw [ho]; rfl))
      rw [ho']
      show (do return o'.fragment.toList ++ (← t.fragments clauses)) = _
      rw [hfragment]
      rfl

/-- A declining handler is invisible on a listed field. Whatever the target, the request and
the required conditions: if a field's handler declines the clauses on it that get that far, then the
plan, or the failure in its place, is that of the target without the handler, and the same clauses
are left out on the way. -/
theorem compile_withoutHandler {handler : Handler} (hlisted : field ∈ t.fields)
    (hhandler : t.handlers.lookup field = some handler) (settings : Settings)
    {request : SearchRequest} (required : List (String → Fragment))
    (hdeclines : ∀ clause ∈ request.criteria, clause.field = Text.ofString field →
      handler.declines t.tableAlias clause = true) :
    ((t.withoutHandler field).compile settings request required).result
        = (t.compile settings request required).result ∧
      ∀ clause ∈ request.criteria,
        ((t.withoutHandler field).clauseOutcome clause).map (·.fragment)
          = (t.clauseOutcome clause).map (·.fragment) := by
  have hclauses : ∀ clause ∈ request.criteria,
      ((t.withoutHandler field).clauseOutcome clause).map (·.fragment)
        = (t.clauseOutcome clause).map (·.fragment) :=
    fun clause hclause => fragment_withoutHandler hlisted hhandler (hdeclines clause hclause)
  refine ⟨?_, hclauses⟩
  rw [result_compile, result_compile, fragments_congr hclauses]
  rfl

/-- Documents whose stored id paths are also a plain column. -/
def pathsTarget : SearchTarget where
  table := "archive_documents"
  fields := ["title", "paths"]
  handlers := [("paths", .storedPaths "paths"), ("title", .joinedColumn "JOIN" "t.title")]

/-- Clauses on the id paths that are about no path: one that is left out at the front, one for each
shape of value that does not fit the column either, and one for each that does. -/
def pathlessRequest : SearchRequest where
  criteria :=
    [⟨"paths", "LIKE", .text "[[4]]", false⟩,
      ⟨"paths", "EQ", .list [.int 0], true⟩,
      ⟨"paths", "FRAGMENT", .int 4, false⟩,
      ⟨"paths", "ANY_OF", .list [.list [.int 4, .int (-5)]], false⟩,
      ⟨"title", "EQ", .list [], false⟩,
      ⟨"paths", "ANY_OF", .list [.text "[[4]]", .null], true⟩,
      ⟨"paths", "fragment ", .text "[4,", false⟩]

theorem compile_withoutHandler_paths :
    "paths" ∈ pathsTarget.fields ∧
      pathsTarget.handlers.lookup "paths" = some (.storedPaths "paths") ∧
      (∀ clause ∈ pathlessRequest.criteria, clause.field = Text.ofString "paths" →
        (Handler.storedPaths "paths").declines pathsTarget.tableAlias clause = true) ∧
      ((pathsTarget.withoutHandler "paths").compile {} pathlessRequest [activeOnly]).result
        = (pathsTarget.compile {} pathlessRequest [activeOnly]).result := by
  have hlisted : "paths" ∈ pathsTarget.fields := by decide
  have hhandler : pathsTarget.handlers.lookup "paths" = some (.storedPaths "paths") := rfl
  have hdeclines : ∀ clause ∈ pathlessRequest.criteria, clause.field = Text.ofString "paths" →
      (Handler.storedPaths "paths").declines pathsTarget.tableAlias clause = true := by
    decide +kernel
  exact ⟨hlisted, hhandler, hdeclines,
    (compile_withoutHandler hlisted hhandler {} [activeOnly] hdeclines).1⟩

end SearchTarget

end CatalogSearch
