import CatalogSearch.Entity.Search
import CatalogSearch.Proofs.Grouping
import CatalogSearch.Request.Reading
import Mathlib.Data.List.Forall2

/-!
# Reading a request and leaving clauses out

A request is read first and compiled then, and a clause that makes no sense is meant to be left out
in the second step. The first step looks at the form of every clause, though, and refuses the whole
request for one of them: whatever else is in order, it takes each condition to be a text, and what
stands under the other name of the negation to mean a boolean (`Clause.read_isOk_iff`). A request
that is read has the same plan as the one from which all clauses were deleted that name no operator
(`compile_named`).
-/

namespace CatalogSearch

/-! ### Checks that pass -/

namespace Checked

variable {α β : Type}

theorem under_eq_ok_iff {step : Step} {x : Checked α} {a : α} :
    x.under step = .ok a ↔ x = .ok a := by
  cases x <;> simp [under, Except.mapError]

theorem app_eq_ok_iff {f : Checked (α → β)} {x : Checked α} {b : β} :
    app f x = .ok b ↔ ∃ g a, f = .ok g ∧ x = .ok a ∧ g a = b := by
  cases f <;> cases x <;> simp [app]

theorem map_eq_ok_iff {f : α → β} {x : Checked α} {b : β} :
    Except.map f x = .ok b ↔ ∃ a, x = .ok a ∧ f a = b := by
  cases x <;> simp [Except.map]

theorem all_eq_ok_iff {f : α → Checked β} {n : Nat} {as : List α} {bs : List β} :
    all f n as = .ok bs ↔ List.Forall₂ (fun a b => f a = .ok b) as bs := by
  induction as generalizing n bs with
  | nil =>
    rw [all, List.forall₂_nil_left_iff]
    simp [eq_comm]
  | cons a as ih =>
    simp only [all, app_eq_ok_iff, map_eq_ok_iff, under_eq_ok_iff, ih, List.forall₂_cons_left_iff]
    constructor
    · rintro ⟨-, cs, ⟨b, hb, rfl⟩, hcs, rfl⟩
      exact ⟨b, cs, hb, hcs, rfl⟩
    · rintro ⟨b, cs, hb, hcs, rfl⟩
      exact ⟨_, cs, ⟨b, hb, rfl⟩, hcs, rfl⟩

end Checked

theorem exists_forall₂_iff {α β : Type} {R : α → β → Prop} {as : List α} :
    (∃ bs, List.Forall₂ R as bs) ↔ ∀ a ∈ as, ∃ b, R a b := by
  induction as with
  | nil => simp
  | cons a as ih =>
    rw [List.forall_mem_cons, ← ih]
    simp only [List.forall₂_cons_left_iff]
    constructor
    · rintro ⟨-, b, bs, hb, hbs, rfl⟩
      exact ⟨⟨b, hb⟩, bs, hbs⟩
    · rintro ⟨⟨b, hb⟩, bs, hbs⟩
      exact ⟨b :: bs, b, bs, hb, hbs, rfl⟩

section Fields

variable {α : Type} {fields : Row} {name : String} {names : List String} {read : Value → Checked α}

theorem readField_of_some {v : Value} (h : fields.get? name = some v) (default? : Option α) :
    readField fields (name :: names) default? read = (read v).under (.name name) := by
  simp only [readField, List.find?_cons, h, Option.isSome_some, Option.getD_some]

theorem readField_of_none (h : fields.get? name = none) (default : α) :
    readField fields (name :: names) (some default) read
      = readField fields names (some default) read := by
  simp only [readField, List.find?_cons, h, Option.isSome_none]

theorem exists_of_readField {a : α} (h : readField fields [name] none read = .ok a) :
    ∃ v, fields.get? name = some v ∧ read v = .ok a := by
  cases hget : fields.get? name with
  | some v =>
    rw [readField_of_some hget, Checked.under_eq_ok_iff] at h
    exact ⟨v, rfl, h⟩
  | none =>
    simp only [readField, List.find?_cons, hget, Option.isSome_none, List.find?_nil] at h
    cases h

end Fields

/-! ### Clauses -/

namespace Clause

/-- A clause as it may be sent: the field is a text, there is some condition, and the negation is a
boolean if there is one. -/
structure IsSent (fields : Row) : Prop where
  field : ∃ t, fields.get? "field" = some (.text t)
  condition : ∃ v, fields.get? "condition" = some v
  negation : ∀ v, fields.get? "not" = some v → ∃ b, v = .bool b

/-- What more it takes to be read: the condition is a text, and without a negation the value under
its other name means a boolean. -/
structure IsReadable (fields : Row) : Prop where
  condition : ∃ t, fields.get? "condition" = some (.text t)
  negation : fields.get? "not" = none →
    ∀ v, fields.get? "negate" = some v → ∃ b, readBoolean v = .ok b

theorem readText_eq_ok_iff {v : Value} {t : Text} : readText v = .ok t ↔ v = .text t := by
  cases v <;> simp [readText, Checked.issue]

theorem readNegation_isOk_iff {fields : Row} (h : IsSent fields) :
    (∃ b, readField fields ["not", "negate"] (some false) readBoolean = .ok b)
      ↔ (fields.get? "not" = none →
          ∀ v, fields.get? "negate" = some v → ∃ b, readBoolean v = .ok b) := by
  cases hnot : fields.get? "not" with
  | some v =>
    obtain ⟨b, rfl⟩ := h.negation v hnot
    rw [readField_of_some hnot]
    simp [readBoolean, Checked.under_eq_ok_iff]
  | none =>
    rw [readField_of_none hnot]
    cases hnegate : fields.get? "negate" with
    | some v =>
      rw [readField_of_some hnegate]
      simp [Checked.under_eq_ok_iff]
    | none =>
      rw [readField_of_none hnegate]
      simp [readField]

variable {notObject : String → IssueKind} {fields : Row}

theorem read_eq_ok_iff {clause : Clause} :
    read notObject (.object fields) = .ok clause ↔
      readField fields ["field"] none readText = .ok clause.field ∧
        readField fields ["condition"] none readText = .ok clause.condition ∧
        readField fields ["value"] (some .null) .ok = .ok clause.value ∧
        readField fields ["not", "negate"] (some false) readBoolean = .ok clause.negate := by
  simp only [read, Checked.app_eq_ok_iff, Checked.map_eq_ok_iff]
  constructor
  · rintro ⟨-, negate, ⟨-, value, ⟨-, condition, ⟨field, hfield, rfl⟩, hcondition, rfl⟩, hvalue,
      rfl⟩, hnegate, rfl⟩
    exact ⟨hfield, hcondition, hvalue, hnegate⟩
  · rintro ⟨hfield, hcondition, hvalue, hnegate⟩
    exact ⟨_, _, ⟨_, _, ⟨_, _, ⟨_, hfield, rfl⟩, hcondition, rfl⟩, hvalue, rfl⟩, hnegate, rfl⟩

theorem condition_of_read {clause : Clause} (h : read notObject (.object fields) = .ok clause) :
    fields.get? "condition" = some (.text clause.condition) := by
  obtain ⟨-, hcondition, -⟩ := read_eq_ok_iff.1 h
  obtain ⟨v, hget, hread⟩ := exists_of_readField hcondition
  rw [hget, readText_eq_ok_iff.1 hread]

/-- What it takes to read a clause. -/
theorem read_isOk_iff (h : IsSent fields) :
    (∃ clause, read notObject (.object fields) = .ok clause) ↔ IsReadable fields := by
  constructor
  · rintro ⟨clause, hread⟩
    obtain ⟨-, -, -, hnegation⟩ := read_eq_ok_iff.1 hread
    exact ⟨⟨_, condition_of_read hread⟩, (readNegation_isOk_iff h).1 ⟨_, hnegation⟩⟩
  · rintro ⟨⟨condition, hcondition⟩, hnegation⟩
    obtain ⟨field, hfield⟩ := h.field
    obtain ⟨negate, hnegate⟩ := (readNegation_isOk_iff h).2 hnegation
    obtain ⟨value, hvalue⟩ : ∃ value, readField fields ["value"] (some .null) .ok = .ok value := by
      cases hget : fields.get? "value" with
      | some v => exact ⟨v, by rw [readField_of_some hget, Checked.under_eq_ok_iff]⟩
      | none => exact ⟨.null, readField_of_none hget _⟩
    refine ⟨⟨field, condition, value, negate⟩, read_eq_ok_iff.2 ⟨?_, ?_, hvalue, hnegate⟩⟩
    · rw [readField_of_some hfield]
      rfl
    · rw [readField_of_some hcondition]
      rfl

def hasOperator (clause : Clause) : Bool := (Operator.ofCondition? clause.condition).isSome

def namesOperator : Value → Bool
  | .object fields =>
    match Row.get? fields "condition" with
    | some (.text t) => (Operator.ofCondition? t).isSome
    | _ => false
  | _ => false

theorem namesOperator_of_read {v : Value} {clause : Clause} (h : read notObject v = .ok clause) :
    namesOperator v = clause.hasOperator := by
  cases v with
  | object fields => simp only [namesOperator, hasOperator, condition_of_read h]
  | _ => cases h

end Clause

/-- Clauses without an operator come to nothing. -/
theorem SearchTarget.filterMap_hasOperator (t : SearchTarget) (clauses : List Clause) :
    (clauses.filter Clause.hasOperator).filterMap t.clauseFragment
      = clauses.filterMap t.clauseFragment := by
  apply filterMap_clauseFragment_filter
  intro clause _ hoperator
  rw [Clause.hasOperator, Option.isSome_eq_false_iff, Option.isNone_iff_eq_none] at hoperator
  simp only [clauseFragment, clauseOutcome, Clause.toCriterion, hoperator]

/-! ### Requests -/

namespace SearchRequest

structure IsSent (fields : Row) (items : List Value) (page pageSize : Int) : Prop where
  query : fields.get? "query" = some (.list items)
  page : fields.get? "page" = some (.int page)
  pageSize : fields.get? "pageSize" = some (.int pageSize)

variable {notObject : String → IssueKind} {fields : Row} {items : List Value} {page pageSize : Int}

theorem readWith_eq_ok_iff (h : IsSent fields items page pageSize) {request : SearchRequest} :
    readWith notObject (.object fields) = .ok request ↔
      List.Forall₂ (fun v clause => Clause.read notObject v = .ok clause) items request.criteria ∧
        request.page = page ∧ request.pageSize = pageSize := by
  obtain ⟨hquery, hpage, hsize⟩ := h
  simp only [readWith, readField_of_some hquery, readField_of_some hpage, readField_of_some hsize,
    Checked.app_eq_ok_iff, Checked.map_eq_ok_iff, Checked.under_eq_ok_iff, Clause.readAll,
    Checked.all_eq_ok_iff]
  constructor
  · rintro ⟨-, size, ⟨-, n, ⟨clauses, hclauses, rfl⟩, hn, rfl⟩, hsize, rfl⟩
    cases hn
    cases hsize
    exact ⟨hclauses, rfl, rfl⟩
  · rintro ⟨hclauses, rfl, rfl⟩
    exact ⟨_, _, ⟨_, _, ⟨_, hclauses, rfl⟩, rfl, rfl⟩, rfl, rfl⟩

theorem IsSent.set_query (h : IsSent fields items page pageSize) (more : List Value) :
    IsSent (fields.set "query" (.list more)) more page pageSize where
  query := by rw [Row.get?_set, if_pos rfl]
  page := by rw [Row.get?_set, if_neg (by decide), h.page]
  pageSize := by rw [Row.get?_set, if_neg (by decide), h.pageSize]

/-- Reading and leaving out. A request that is in order but for its conditions is read exactly
if each of its clauses can be; and then every entity has the same plan for it as for the request
without the clauses that name no operator, which can be read as well. -/
theorem compile_named (h : IsSent fields items page pageSize)
    (hitems : ∀ v ∈ items, ∃ clause, v = .object clause ∧ Clause.IsSent clause) :
    ((∃ request, SearchRequest.read (.object fields) = .ok request) ↔
      ∀ v ∈ items, ∃ clause, v = .object clause ∧ Clause.IsReadable clause) ∧
    ∀ request, SearchRequest.read (.object fields) = .ok request →
      ∃ named, SearchRequest.read
          (.object (fields.set "query" (.list (items.filter Clause.namesOperator)))) = .ok named ∧
        ∀ (e : Entity) settings required, ∃ plan,
          (e.compile settings request required).result = .ok plan ∧
            (e.compile settings named required).result = .ok plan := by
  refine ⟨?_, ?_⟩
  · have hclauses : (∃ clauses,
        List.Forall₂ (fun v clause => Clause.read .notForm v = .ok clause) items clauses)
          ↔ ∀ v ∈ items, ∃ clause, v = .object clause ∧ Clause.IsReadable clause := by
      rw [exists_forall₂_iff]
      apply forall₂_congr
      intro v hv
      obtain ⟨clause, rfl, hsent⟩ := hitems v hv
      rw [Clause.read_isOk_iff hsent]
      simp
    rw [← hclauses]
    constructor
    · rintro ⟨request, hread⟩
      exact ⟨_, ((readWith_eq_ok_iff h).1 hread).1⟩
    · rintro ⟨clauses, hread⟩
      exact ⟨⟨clauses, page, pageSize⟩, (readWith_eq_ok_iff h).2 ⟨hread, rfl, rfl⟩⟩
  · intro request hread
    obtain ⟨hclauses, hpage, hsize⟩ := (readWith_eq_ok_iff h).1 hread
    -- each item names an operator exactly if the clause that it is read as has one, so the same
    -- are left out of both lists
    have hnamed : List.Forall₂ (fun v clause => Clause.read .notForm v = .ok clause)
        (items.filter Clause.namesOperator) (request.criteria.filter Clause.hasOperator) := by
      refine List.rel_filter ?_ hclauses
      intro v clause hclause
      show Clause.namesOperator v = true ↔ clause.hasOperator = true
      rw [Clause.namesOperator_of_read hclause]
    refine ⟨{ request with criteria := request.criteria.filter Clause.hasOperator },
      (readWith_eq_ok_iff (h.set_query _)).2 ⟨hnamed, hpage, hsize⟩, ?_⟩
    intro e settings required
    refine ⟨_, SearchTarget.compile_registered e.target_registers settings request required, ?_⟩
    rw [Entity.compile, SearchTarget.compile_registered e.target_registers,
      SearchTarget.filterMap_hasOperator]
    rfl

def bogusQuery : List Value :=
  [.object [("field", .text "title"), ("condition", .text " eq "), ("value", .text "b")],
    .object [("field", .text "active"), ("condition", .text "between"), ("value", .list [.null]),
      ("not", .bool true)]]

def bogusRequest : Row := [("page", .int 2), ("pageSize", .int 5), ("query", .list bogusQuery)]

theorem compile_named_bogus :
    IsSent bogusRequest bogusQuery 2 5 ∧
      (∀ v ∈ bogusQuery, ∃ clause, v = .object clause ∧ Clause.IsSent clause) ∧
      ((∃ request, SearchRequest.read (.object bogusRequest) = .ok request) ↔
        ∀ v ∈ bogusQuery, ∃ clause, v = .object clause ∧ Clause.IsReadable clause) ∧
      ∀ request, SearchRequest.read (.object bogusRequest) = .ok request →
        ∃ named, SearchRequest.read
            (.object (bogusRequest.set "query"
              (.list (bogusQuery.filter Clause.namesOperator)))) = .ok named ∧
          ∀ (e : Entity) settings required, ∃ plan,
            (e.compile settings request required).result = .ok plan ∧
              (e.compile settings named required).result = .ok plan := by
  have hsent : IsSent bogusRequest bogusQuery 2 5 := ⟨rfl, rfl, rfl⟩
  have hclauses : ∀ v ∈ bogusQuery, ∃ clause, v = .object clause ∧ Clause.IsSent clause := by
    intro v hv
    rcases List.mem_pair.1 hv with rfl | rfl
    · exact ⟨_, rfl, ⟨_, rfl⟩, ⟨_, rfl⟩, nofun⟩
    · exact ⟨_, rfl, ⟨_, rfl⟩, ⟨_, rfl⟩, fun v hv => ⟨true, (Option.some.inj hv).symm⟩⟩
  exact ⟨hsent, hclauses, compile_named hsent hclauses⟩

def numberedQuery : List Value :=
  [.object [("field", .text "title"), ("condition", .int 5), ("value", .text "a")],
    .object [("field", .text "title"), ("condition", .text "EQ"), ("value", .text "b")]]

def numberedRequest : Row :=
  [("page", .int 1), ("pageSize", .int 10), ("query", .list numberedQuery)]

/-- A request with a number in the place of a condition is refused as a whole, for that clause
alone. -/
theorem read_refused_numbered :
    IsSent numberedRequest numberedQuery 1 10 ∧
      (∀ v ∈ numberedQuery, ∃ clause, v = .object clause ∧ Clause.IsSent clause) ∧
      SearchRequest.read (.object numberedRequest)
        = .error [⟨[.name "query", .index 0, .name "condition"], .notText, .int 5⟩] := by
  refine ⟨⟨rfl, rfl, rfl⟩, ?_, rfl⟩
  intro v hv
  rcases List.mem_pair.1 hv with rfl | rfl
  · exact ⟨_, rfl, ⟨_, rfl⟩, ⟨_, rfl⟩, nofun⟩
  · exact ⟨_, rfl, ⟨_, rfl⟩, ⟨_, rfl⟩, nofun⟩

end SearchRequest

end CatalogSearch
