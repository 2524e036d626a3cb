import CatalogSearch.Proofs.Conjuncts

/-!
# Clauses compile one by one

All clauses are checked before any of them is compiled, and a handler may decline, answer or fail.
Still each clause comes to its own outcome, which depends on no other clause, and a request comes to
the fragments of its clauses in order, or to the first failure among them (`compile_eq_fragments`). So
compiling is a homomorphism from lists of clauses, and a clause that comes to nothing can be left out
of the request: all that it does is to leave a warning. This holds for any handlers, not only for
those of the four kinds.
-/

namespace CatalogSearch

/-! ### Outcomes without a fragment -/

theorem Clause.toCriterion_warns {clause : Clause} {rawValue : Bool} {n : Notice}
    (h : clause.toCriterion rawValue = .error n) : n.level = .warning := by
  rw [toCriterion] at h
  split at h
  case h_1 =>
    cases h
    rfl
  case h_2 =>
    split at h
    case h_1 =>
      cases h
      rfl
    case h_2 =>
      split at h
      case isTrue =>
        cases h
        rfl
      case isFalse => cases h

theorem Criterion.plainCondition_warns {c : Criterion} {column : String} {n : Notice}
    (h : c.plainCondition column = .ok (.error n)) : n.level = .warning := by
  rw [plainCondition] at h
  split at h
  case isTrue =>
    split at h
    case h_1 => cases h
    case h_2 =>
      cases h
      rfl
  case isFalse =>
    have hnotice := Except.ok.inj h
    split at hnotice
    case h_2 =>
      split at hnotice
      case isTrue => cases hnotice
      case isFalse =>
        cases hnotice
        rfl
    case h_6 =>
      split at hnotice
      case h_1 => cases hnotice
      case h_2 =>
        cases hnotice
        rfl
    all_goals cases hnotice

/-- An outcome that says why, if it has no fragment. -/
def Outcome.Warns (o : Outcome) : Prop :=
  o.fragment = none → ∃ n ∈ o.notices, n.level = .warning

theorem Criterion.plain_warns {c : Criterion} {column : String} {o : Outcome}
    (h : c.plain column = .ok o) : o.Warns := by
  intro hnone
  obtain ⟨r, hcondition, h⟩ := exists_of_bind_eq_ok h
  cases h
  cases r with
  | ok condition => cases hnone
  | error n => exact ⟨n, List.mem_singleton_self n, plainCondition_warns hcondition⟩

theorem Outcome.Warns.of_notices {o : Outcome} (h : o.Warns) (more : List Notice) :
    Outcome.Warns { o with notices := more ++ o.notices } := by
  intro hnone
  obtain ⟨n, hn, hlevel⟩ := h hnone
  exact ⟨n, List.mem_append_right more hn, hlevel⟩

namespace SearchTarget

variable {t : SearchTarget}

theorem plainOutcome_warns {c : Criterion} {o : Outcome} (h : t.plainOutcome c = .ok o) :
    o.Warns := by
  rw [plainOutcome] at h
  split at h
  case isTrue => exact Criterion.plain_warns h
  case isFalse =>
    obtain ⟨inner, hplain, h⟩ := exists_of_bind_eq_ok h
    cases h
    exact (Criterion.plain_warns hplain).of_notices [_]

theorem outcome_warns {c : Criterion} {o : Outcome} (h : t.outcome c = .ok o) : o.Warns := by
  rw [outcome] at h
  split at h
  case h_1 => exact plainOutcome_warns h
  case h_2 =>
    split at h
    case h_1 => cases h
    case h_2 =>
      cases h
      intro hnone
      cases hnone
    case h_3 notices _ =>
      split at h
      case isTrue =>
        obtain ⟨inner, hplain, h⟩ := exists_of_bind_eq_ok h
        cases h
        exact (plainOutcome_warns hplain).of_notices notices
      case isFalse =>
        cases h
        exact fun _ => ⟨_, List.mem_append_right notices (List.mem_singleton_self _), rfl⟩

/-- A clause without a fragment leaves a warning, wherever on its way it is dropped. -/
theorem clauseOutcome_warns {clause : Clause} {o : Outcome}
    (h : t.clauseOutcome clause = .ok o) : o.Warns := by
  rw [clauseOutcome] at h
  split at h
  case h_1 => exact outcome_warns h
  case h_2 n hn =>
    cases h
    exact fun _ => ⟨n, List.mem_singleton_self n, Clause.toCriterion_warns hn⟩

/-! ### The outcomes of a request -/

theorem fragments_append (xs ys : List Clause) :
    t.fragments (xs ++ ys) = do return (← t.fragments xs) ++ (← t.fragments ys) := by
  induction xs with
  | nil =>
    show t.fragments ys = do return [] ++ (← t.fragments ys)
    cases t.fragments ys <;> rfl
  | cons clause xs ih =>
    rw [List.cons_append, fragments_cons, fragments_cons, ih]
    cases t.clauseOutcome clause with
    | error e => rfl
    | ok o =>
      cases t.fragments xs with
      | error e => rfl
      | ok fs => cases t.fragments ys <;> simp [bind, Except.bind, pure, Except.pure]

/-- The notices of a request are those of its clauses, though not in their order. -/
theorem notices_perm {clauses : List Clause} {os : List Outcome}
    (h : t.outcomes clauses = .ok os) :
    ((Criterion.ofClauses t.isHandled clauses).2 ++
        (Outcome.gather ((Criterion.ofClauses t.isHandled clauses).1.map t.outcome)).1).Perm
      (os.flatMap (·.notices)) := by
  induction clauses generalizing os with
  | nil =>
    cases h
    exact .refl []
  | cons clause clauses ih =>
    obtain ⟨o, rest, ho, hrest, rfl⟩ := exists_of_mapM_cons_eq_ok h
    have htail := ih hrest
    rw [Criterion.ofClauses] at htail ⊢
    rw [clauseOutcome] at ho
    simp only [List.map_cons, List.filterMap_cons, List.flatMap_cons]
    cases hc : clause.toCriterion (clause.field.string?.any t.isHandled) with
    | error n =>
      rw [hc] at ho
      cases ho
      exact htail.cons n
    | ok c =>
      rw [hc] at ho
      simp only [List.map_cons, ho, Outcome.gather]
      refine .trans ?_ (htail.append_left o.notices)
      rw [← List.append_assoc, ← List.append_assoc]
      exact List.perm_append_comm.append_right _

/-- A target that can be compiled for: its table is an identifier, and its templates can be filled
in. -/
structure Valid (t : SearchTarget) : Prop where
  table : isIdentifier t.table = true
  joins : ∃ joins, fillTemplates t.extraJoins t.tableAlias = .ok joins
  columns : ∃ columns, fillTemplates t.extraColumns t.tableAlias = .ok columns

/-- A request compiles to the fragments of its clauses, or to the first failure among them. -/
theorem compile_eq_fragments (hvalid : t.Valid) : ∃ joins columns, ∀ settings request required,
    (t.compile settings request required).result = (t.fragments request.criteria).map fun fs =>
      t.plan (pageWindow settings request) joins (fs ++ required.map (· t.tableAlias)) columns := by
  obtain ⟨joins, hjoins⟩ := hvalid.joins
  obtain ⟨columns, hcolumns⟩ := hvalid.columns
  refine ⟨joins, columns, fun settings request required => ?_⟩
  rw [result_compile, if_pos hvalid.table, hjoins, hcolumns]
  cases t.fragments request.criteria <;> rfl

theorem notices_compile (hvalid : t.Valid) (settings : Settings) {request : SearchRequest}
    (required : List (String → Fragment)) {os : List Outcome}
    (h : t.outcomes request.criteria = .ok os) :
    (t.compile settings request required).notices.Perm (os.flatMap (·.notices)) := by
  obtain ⟨joins, hjoins⟩ := hvalid.joins
  rw [compile, if_neg (by simp [hvalid.table]), hjoins]
  exact notices_perm h

/-! ### One by one -/

/-- The predicates that some clauses compile to when nothing is required. -/
def predicatesOf (t : SearchTarget) (settings : Settings) (clauses : List Clause) :
    Except Failure (List Predicate) :=
  (t.compile settings { criteria := clauses } []).result.map (·.predicates)

/-- Whether a clause compiles to no predicate. -/
def skips (t : SearchTarget) (settings : Settings) (clause : Clause) : Bool :=
  match t.predicatesOf settings [clause] with
  | .ok ps => ps.isEmpty
  | .error _ => false

def pruned (t : SearchTarget) (settings : Settings) (request : SearchRequest) : SearchRequest :=
  { request with criteria := request.criteria.filter (!t.skips settings ·) }

structure ClauseWise (t : SearchTarget) (settings : Settings) : Prop where
  /-- The clauses before and behind one another do not matter. -/
  append : ∀ xs ys, t.predicatesOf settings (xs ++ ys) = do
    return (← t.predicatesOf settings xs) ++ (← t.predicatesOf settings ys)
  /-- Neither do the page and what is required. -/
  required : ∀ request required, (t.compile settings request required).result.map (·.predicates)
    = (t.predicatesOf settings request.criteria).map (· ++ required.map t.requiredPredicate)
  single : ∀ clause ps, t.predicatesOf settings [clause] = .ok ps → ps.length ≤ 1
  /-- Each clause without a predicate leaves a warning of its own. -/
  warned : ∀ request required plan, (t.compile settings request required).result = .ok plan →
    request.criteria.countP (t.skips settings)
      ≤ (t.compile settings request required).notices.countP (·.level = .warning)
  /-- Nothing else of it is left. -/
  pruned : ∀ request required, (t.compile settings (t.pruned settings request) required).result
    = (t.compile settings request required).result

theorem predicatesOf_eq (hvalid : t.Valid) (settings : Settings) (clauses : List Clause) :
    t.predicatesOf settings clauses
      = (t.fragments clauses).map fun fs => fs.map fun f => .trimmed f.condition := by
  obtain ⟨joins, columns, hcompile⟩ := compile_eq_fragments hvalid
  rw [predicatesOf, hcompile]
  cases t.fragments clauses with
  | error e => rfl
  | ok fs => simp [Except.map, plan]

theorem skips_iff (hvalid : t.Valid) (settings : Settings) (clause : Clause) :
    t.skips settings clause = true ↔ ∃ o, t.clauseOutcome clause = .ok o ∧ o.fragment = none := by
  have hnil : t.fragments [] = .ok [] := rfl
  rw [skips, predicatesOf_eq hvalid, fragments_cons, hnil]
  cases t.clauseOutcome clause with
  | error e => simp [bind, Except.bind, Except.map]
  | ok o => simp [bind, Except.bind, pure, Except.pure, Except.map]

theorem fragments_pruned (hvalid : t.Valid) (settings : Settings) (clauses : List Clause) :
    t.fragments (clauses.filter (!t.skips settings ·)) = t.fragments clauses := by
  induction clauses with
  | nil => rfl
  | cons clause clauses ih =>
    rw [List.filter_cons, fragments_cons]
    split
    case isTrue => rw [fragments_cons, ih]
    case isFalse hskips =>
      rw [Bool.not_eq_true, Bool.not_eq_false'] at hskips
      obtain ⟨o, ho, hnone⟩ := (skips_iff hvalid settings clause).1 hskips
      rw [ih, ho]
      show t.fragments clauses = do return o.fragment.toList ++ (← t.fragments clauses)
      rw [hnone]
      cases t.fragments clauses <;> rfl

theorem countP_skips_le (hvalid : t.Valid) (settings : Settings) {clauses : List Clause}
    {os : List Outcome} (h : t.outcomes clauses = .ok os) :
    clauses.countP (t.skips settings)
      ≤ (os.flatMap (·.notices)).countP (·.level = .warning) := by
  induction clauses generalizing os with
  | nil => simp
  | cons clause clauses ih =>
    obtain ⟨o, rest, ho, hrest, rfl⟩ := exists_of_mapM_cons_eq_ok h
    have htail := ih hrest
    rw [List.countP_cons, List.flatMap_cons, List.countP_append]
    split
    case isTrue hskips =>
      obtain ⟨o', ho', hnone⟩ := (skips_iff hvalid settings clause).1 hskips
      cases ho.symm.trans ho'
      obtain ⟨n, hn, hlevel⟩ := clauseOutcome_warns ho hnone
      have hpos : 0 < o.notices.countP (·.level = .warning) :=
        List.countP_pos_iff.2 ⟨n, hn, decide_eq_true hlevel⟩
      omega
    case isFalse => omega

/-- Clauses compile one by one, whatever the handlers of the target are. -/
theorem clauseWise (hvalid : t.Valid) (settings : Settings) : t.ClauseWise settings := by
  obtain ⟨joins, columns, hcompile⟩ := compile_eq_fragments hvalid
  refine ⟨?append, ?required, ?single, ?warned, ?pruned⟩
  case append =>
    intro xs ys
    rw [predicatesOf_eq hvalid, predicatesOf_eq hvalid, predicatesOf_eq hvalid, fragments_append]
    cases t.fragments xs with
    | error e => rfl
    | ok fs =>
      cases t.fragments ys with
      | error e => rfl
      | ok gs => simp [bind, Except.bind, pure, Except.pure, Except.map]
  case required =>
    intro request required
    rw [predicatesOf_eq hvalid, hcompile]
    cases t.fragments request.criteria with
    | error e => rfl
    | ok fs => simp [Except.map, plan, requiredPredicate]
  case single =>
    intro clause ps hps
    have hnil : t.fragments [] = .ok [] := rfl
    rw [predicatesOf_eq hvalid, fragments_cons, hnil] at hps
    cases ho : t.clauseOutcome clause with
    | error e =>
      rw [ho] at hps
      cases hps
    | ok o =>
      rw [ho] at hps
      cases hps
      cases hfragment : o.fragment <;> simp
  case warned =>
    intro request required plan hplan
    rw [hcompile, fragments] at hplan
    cases hos : t.outcomes request.criteria with
    | error e =>
      rw [hos] at hplan
      cases hplan
    | ok os =>
      rw [(notices_compile hvalid settings required hos).countP_eq]
      exact countP_skips_le hvalid settings hos
  case pruned =>
    intro request required
    have hfragments : t.fragments (t.pruned settings request).criteria
        = t.fragments request.criteria := fragments_pruned hvalid settings request.criteria
    rw [hcompile, hcompile, hfragments]
    rfl

/-- A table with a field whose handler is of none of the four kinds and takes nothing. -/
def moodTarget : SearchTarget where
  table := "notes"
  fields := ["title"]
  handlers := [("mood", .decline)]

theorem clauseWise_mood : moodTarget.Valid ∧ moodTarget.ClauseWise {} := by
  have hvalid : moodTarget.Valid := ⟨by decide, ⟨[], rfl⟩, ⟨[], rfl⟩⟩
  exact ⟨hvalid, clauseWise hvalid {}⟩

end SearchTarget

end CatalogSearch
