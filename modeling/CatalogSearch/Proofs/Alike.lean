import CatalogSearch.Entity.Search
import CatalogSearch.Proofs.Pairing
import Mathlib.Data.List.Forall2

/-!
# The SQL does not depend on the values

Two values are alike if they have the same shape: an array stays an array of as many alike items, a
positive integer stays positive, and so on, but any text can stand in the place of any other. What
a clause comes to looks at the shape of its value only. So two requests that agree in everything but
values, and have values alike, are compiled to the same SQL with as many parameters; the values
differ, and they never reach the text.
-/

namespace CatalogSearch

/-- Values of one shape. -/
inductive Value.Alike : Value → Value → Prop where
  | null : Alike .null .null
  | bool (b : Bool) : Alike (.bool b) (.bool b)
  | positive {i j : Int} (hi : 0 < i) (hj : 0 < j) : Alike (.int i) (.int j)
  | nonPositive {i j : Int} (hi : i ≤ 0) (hj : j ≤ 0) : Alike (.int i) (.int j)
  | float (x y : Binary64) : Alike (.float x) (.float y)
  | text (s t : Text) : Alike (.text s) (.text t)
  | list {vs ws : List Value} (h : List.Forall₂ Alike vs ws) : Alike (.list vs) (.list ws)
  | object (fs gs : List (Text × Value)) : Alike (.object fs) (.object gs)

/-- Clauses that agree in everything but the value, with values of one shape. -/
structure Clause.Alike (c d : Clause) : Prop where
  field : c.field = d.field
  condition : c.condition = d.condition
  negate : c.negate = d.negate
  value : c.value.Alike d.value

inductive Criterion.Alike : Criterion → Criterion → Prop where
  | mk (field : String) (op : Operator) (negate : Bool) {v w : Value} (h : v.Alike w) :
    Alike ⟨field, op, v, negate⟩ ⟨field, op, w, negate⟩

theorem Criterion.Alike.field_eq {c d : Criterion} (h : c.Alike d) : c.field = d.field := by
  cases h
  rfl

structure Condition.Alike (c d : Condition) : Prop where
  text : c.text = d.text
  parameters : c.parameters.length = d.parameters.length

structure Fragment.Alike (f g : Fragment) : Prop where
  condition : f.condition.Alike g.condition
  join : f.join = g.join

inductive Outcome.Alike : Except Failure Outcome → Except Failure Outcome → Prop where
  | kept (ns ms : List Notice) {f g : Fragment} (h : f.Alike g) :
    Alike (.ok ⟨ns, some f⟩) (.ok ⟨ms, some g⟩)
  | dropped (ns ms : List Notice) : Alike (.ok ⟨ns, none⟩) (.ok ⟨ms, none⟩)
  | failed (e e' : Failure) : Alike (.error e) (.error e')

/-! ### Values -/

namespace Value.Alike

variable {v w : Value} {vs ws : List Value}

theorem isScalar_eq (h : v.Alike w) : v.isScalar = w.isScalar := by
  cases h <;> rfl

theorem fits_eq (h : v.Alike w) (op : Operator) : op.fits v = op.fits w := by
  cases op with
  | anyOf => cases h <;> rfl
  | contains => cases h <;> rfl
  | isEmpty => rfl
  | _ => exact h.isScalar_eq

theorem all_isScalar_eq (h : List.Forall₂ Value.Alike vs ws) :
    vs.all Value.isScalar = ws.all Value.isScalar := by
  induction h with
  | nil => rfl
  | cons hv _ ih => rw [List.all_cons, List.all_cons, hv.isScalar_eq, ih]

theorem positiveIds_cons_positive {i : Int} (hi : 0 < i) (vs : List Value) :
    positiveIds (.int i :: vs) = i :: positiveIds vs := by
  simp [positiveIds, hi]

theorem positiveIds_cons_nonPositive {i : Int} (hi : i ≤ 0) (vs : List Value) :
    positiveIds (.int i :: vs) = positiveIds vs := by
  simp [positiveIds, Int.not_lt.2 hi]

theorem length_positiveIds (h : List.Forall₂ Value.Alike vs ws) :
    (positiveIds vs).length = (positiveIds ws).length := by
  induction h with
  | nil => rfl
  | cons hv _ ih =>
    cases hv with
    | positive hi hj =>
      rw [positiveIds_cons_positive hi, positiveIds_cons_positive hj, List.length_cons,
        List.length_cons, ih]
    | nonPositive hi hj =>
      rw [positiveIds_cons_nonPositive hi, positiveIds_cons_nonPositive hj, ih]
    | _ => exact ih

theorem ofValue?_cons (v : Value) (vs : List Value) :
    IdPath.ofValue? (.list (v :: vs)) =
      if (positiveIds (v :: vs)).length = (v :: vs).length then some (positiveIds (v :: vs))
      else none := rfl

theorem isSome_ofValue? (h : v.Alike w) :
    (IdPath.ofValue? v).isSome = (IdPath.ofValue? w).isSome := by
  cases h with
  | list h =>
    cases h with
    | nil => rfl
    | cons hv h =>
      have hids := length_positiveIds (.cons hv h)
      have hlength := (List.Forall₂.cons hv h).length_eq
      rw [ofValue?_cons, ofValue?_cons, hids, hlength]
      split <;> rfl
  | _ => rfl

theorem isSome_mapM_cons {α β : Type} (f : α → Option β) (x : α) (xs : List α) :
    ((x :: xs).mapM f).isSome = ((f x).isSome && (xs.mapM f).isSome) := by
  rw [List.mapM_cons]
  cases f x with
  | none => rfl
  | some y =>
    cases xs.mapM f <;> rfl

theorem isSome_mapM_ofValue? (h : List.Forall₂ Value.Alike vs ws) :
    (vs.mapM IdPath.ofValue?).isSome = (ws.mapM IdPath.ofValue?).isSome := by
  induction h with
  | nil => rfl
  | cons hv _ ih => rw [isSome_mapM_cons, isSome_mapM_cons, hv.isSome_ofValue?, ih]

end Value.Alike

/-! ### Conditions -/

theorem Condition.Alike.negateIf {c d : Condition} (h : c.Alike d) (negate : Bool) :
    (negateIf negate c).Alike (negateIf negate d) := by
  cases negate with
  | false => exact h
  | true => exact ⟨by rw [Condition.negateIf, Condition.negateIf, if_pos rfl, if_pos rfl,
      Condition.text, Condition.text, h.text], h.parameters⟩

theorem Condition.compare_alike (negate : Bool) (column : String) (comparison : Comparison)
    (v w : Value) : (Condition.negateIf negate (compare column comparison v)).Alike
      (Condition.negateIf negate (compare column comparison w)) := by
  have h : (compare column comparison v).Alike (compare column comparison w) := ⟨rfl, rfl⟩
  exact h.negateIf negate

theorem Condition.contains_alike (negate : Bool) (column : String) (s t : Text) :
    (Condition.negateIf negate (contains column s)).Alike
      (Condition.negateIf negate (contains column t)) := by
  have h : (contains column s).Alike (contains column t) := ⟨rfl, rfl⟩
  exact h.negateIf negate

theorem Condition.oneOf_alike (column : String) {vs ws : List Value}
    (h : vs.length = ws.length) : (oneOf column vs).Alike (oneOf column ws) :=
  ⟨by rw [text, text, h], h⟩

theorem Condition.noneOf_alike (column : String) {vs ws : List Value}
    (h : vs.length = ws.length) : (noneOf column vs).Alike (noneOf column ws) :=
  ⟨by rw [text, text, h], h⟩

theorem Condition.ofSubquery_alike (negate : Bool) {q q' : Subquery} (htext : q.text = q'.text)
    (hlength : q.parameters.length = q'.parameters.length) :
    (ofSubquery negate q).Alike (ofSubquery negate q') := by
  cases negate with
  | false => exact ⟨htext, hlength⟩
  | true => exact ⟨congrArg ("NOT " ++ ·) htext, hlength⟩

namespace Outcome.Alike

variable {x y : Except Failure Outcome}

theorem map_notices (h : Outcome.Alike x y) (add add' : List Notice → List Notice) :
    Outcome.Alike (x.map fun o => { o with notices := add o.notices })
      (y.map fun o => { o with notices := add' o.notices }) := by
  cases h with
  | kept ns ms h => exact .kept (add ns) (add' ms) h
  | dropped ns ms => exact .dropped (add ns) (add' ms)
  | failed e e' => exact .failed e e'

theorem answer {c d : Condition} (h : c.Alike d) :
    Outcome.Alike (Handler.answer c) (Handler.answer d) := .kept [] [] ⟨h, rfl⟩

theorem decline (c d : Criterion) (tableAlias : String) :
    Outcome.Alike (Handler.decline c tableAlias) (Handler.decline d tableAlias) := .dropped [] []

end Outcome.Alike

theorem Criterion.plain_members_alike (field : String) (negate : Bool) (column : String)
    {vs ws : List Value} (h : List.Forall₂ Value.Alike vs ws) :
    Outcome.Alike (plain ⟨field, .anyOf, .list vs, negate⟩ column)
      (plain ⟨field, .anyOf, .list ws, negate⟩ column) := by
  cases h with
  | nil => exact .kept [] [] ⟨⟨rfl, rfl⟩, rfl⟩
  | @cons v w vs ws hv h =>
    have hall := Value.Alike.all_isScalar_eq (.cons hv h)
    have hlength : ((v :: vs).map Value.bound).length = ((w :: ws).map Value.bound).length := by
      rw [List.length_map, List.length_map, (List.Forall₂.cons hv h).length_eq]
    simp only [plain, plainCondition, Operator.fits, Bool.not_true, Bool.false_eq_true, if_false,
      hall]
    split
    · cases negate with
      | false => exact .kept [] [] ⟨Condition.oneOf_alike column hlength, rfl⟩
      | true => exact .kept [] [] ⟨Condition.noneOf_alike column hlength, rfl⟩
    · exact .dropped _ _

/-- What becomes of a criterion on a column looks at the shape of the value only. -/
theorem Criterion.plain_alike {c d : Criterion} (h : c.Alike d) (column : String) :
    Outcome.Alike (c.plain column) (d.plain column) := by
  obtain @⟨field, op, negate, v, w, hvalue⟩ := h
  have hfits := hvalue.fits_eq op
  rw [plain, plain, plainCondition, plainCondition]
  cases hv : op.fits v with
  | false =>
    rw [hv] at hfits
    rw [if_pos (by simp), if_pos (by simp [← hfits])]
    cases op with
    | other name => exact .failed _ _
    | _ => exact .dropped _ _
  | true =>
    rw [hv] at hfits
    rw [if_neg (by simp), if_neg (by simp [← hfits])]
    cases op with
    | equal =>
      cases hvalue with
      | null => exact .kept [] [] ⟨⟨rfl, rfl⟩, rfl⟩
      | list h => cases hv
      | object fs gs => cases hv
      | _ => exact .kept [] [] ⟨Condition.compare_alike negate column .equal _ _, rfl⟩
    | greaterThan =>
      exact .kept [] [] ⟨Condition.compare_alike negate column .greaterThan _ _, rfl⟩
    | greaterOrEqual =>
      exact .kept [] [] ⟨Condition.compare_alike negate column .greaterOrEqual _ _, rfl⟩
    | lessThan =>
      exact .kept [] [] ⟨Condition.compare_alike negate column .lessThan _ _, rfl⟩
    | lessOrEqual =>
      exact .kept [] [] ⟨Condition.compare_alike negate column .lessOrEqual _ _, rfl⟩
    | anyOf =>
      cases hvalue with
      | list h => exact plain_members_alike field negate column h
      | _ => cases hv
    | contains =>
      cases hvalue with
      | text s t => exact .kept [] [] ⟨Condition.contains_alike negate column s t, rfl⟩
      | _ => cases hv
    | isEmpty => exact .kept [] [] ⟨⟨rfl, rfl⟩, rfl⟩
    | other name => exact .dropped _ _

/-! ### Handlers -/

namespace HandlerKind

variable {c d : Criterion}

theorem linkedTo_alike (negate : Bool) (rows : LinkedRows) (target : String) {ids ids' : List Int}
    (h : ids.length = ids'.length) :
    (Condition.ofSubquery negate (.linkedTo rows target ids)).Alike
      (Condition.ofSubquery negate (.linkedTo rows target ids')) := by
  refine Condition.ofSubquery_alike negate ?_ ?_
  · rw [Subquery.text_linkedTo, Subquery.text_linkedTo, h]
  · rw [Subquery.parameters, Subquery.parameters, List.length_map, List.length_map, h]

theorem pathUnder_alike (negate : Bool) (source : String) {paths paths' : List IdPath}
    (h : paths.length = paths'.length) :
    (Condition.ofSubquery negate (.pathUnder source paths)).Alike
      (Condition.ofSubquery negate (.pathUnder source paths')) := by
  refine Condition.ofSubquery_alike negate ?_ ?_
  · rw [Subquery.text_pathUnder, Subquery.text_pathUnder, List.map_const', List.map_const', h]
  · rw [Subquery.parameters, Subquery.parameters, length_pathParameters, length_pathParameters, h]

theorem linkedToAny_alike (table owner target key : String) (strategy : LinkStrategy)
    (h : c.Alike d) (tableAlias : String) :
    Outcome.Alike (Handler.linkedToAny table owner target key strategy c tableAlias)
      (Handler.linkedToAny table owner target key strategy d tableAlias) := by
  obtain ⟨field, op, negate, hvalue⟩ := h
  cases op with
  | anyOf =>
    cases hvalue with
    | @list vs ws h =>
      have hlength := Value.Alike.length_positiveIds h
      have hempty : (positiveIds vs).isEmpty = (positiveIds ws).isEmpty := by
        rw [Bool.eq_iff_iff, List.isEmpty_iff_length_eq_zero, List.isEmpty_iff_length_eq_zero,
          hlength]
      simp only [Handler.linkedToAny, hempty]
      split
      · exact .kept [] [] ⟨⟨rfl, rfl⟩, rfl⟩
      · split
        · refine .kept [] [] ⟨Condition.oneOf_alike _ ?_, rfl⟩
          rw [List.length_map, List.length_map, hlength]
        · exact .answer (linkedTo_alike negate _ target hlength)
    | _ => exact .dropped [] []
  | _ => exact .dropped [] []

theorem hasLinked_alike (table owner key : String) (h : c.Alike d) (tableAlias : String) :
    Outcome.Alike (Handler.hasLinked table owner key c tableAlias)
      (Handler.hasLinked table owner key d tableAlias) := by
  obtain ⟨field, op, negate, hvalue⟩ := h
  cases op with
  | equal =>
    cases hvalue with
    | bool b => exact .answer ⟨rfl, rfl⟩
    | _ => exact .dropped [] []
  | _ => exact .dropped [] []

theorem joinedColumn_alike (joinClause column : String) (h : c.Alike d) (tableAlias : String) :
    Outcome.Alike (Handler.joinedColumn joinClause column c tableAlias)
      (Handler.joinedColumn joinClause column d tableAlias) := by
  have hplain := Criterion.plain_alike h column
  rw [Handler.joinedColumn, Handler.joinedColumn]
  generalize c.plain column = x at hplain ⊢
  generalize d.plain column = y at hplain ⊢
  cases hplain with
  | failed e e' => exact .failed e e'
  | dropped ns ms => exact .dropped ns ms
  | kept ns ms h =>
    simp only [bind, Except.bind]
    cases Template.fill joinClause tableAlias with
    | ok join => exact .kept ns ms ⟨h.condition, rfl⟩
    | error e => exact .failed _ _

theorem both_or_neither {α β : Type} {x : Option α} {y : Option β} (h : x.isSome = y.isSome) :
    (x = none ∧ y = none) ∨ ∃ a b, x = some a ∧ y = some b := by
  cases x with
  | none =>
    cases y with
    | none => exact Or.inl ⟨rfl, rfl⟩
    | some b => cases h
  | some a =>
    cases y with
    | none => cases h
    | some b => exact Or.inr ⟨a, b, rfl, rfl⟩

theorem storedPaths_alike (column : String) (h : c.Alike d) (tableAlias : String) :
    Outcome.Alike (Handler.storedPaths column c tableAlias)
      (Handler.storedPaths column d tableAlias) := by
  obtain ⟨field, op, negate, hvalue⟩ := h
  cases op with
  | equal =>
    simp only [Handler.storedPaths]
    rcases both_or_neither hvalue.isSome_ofValue? with ⟨hv, hw⟩ | ⟨path, path', hv, hw⟩
    · rw [hv, hw]
      exact .dropped [] []
    · rw [hv, hw]
      exact .answer (Condition.ofSubquery_alike negate rfl rfl)
  | anyOf =>
    cases hvalue with
    | list h =>
      cases h with
      | nil => exact .answer ⟨rfl, rfl⟩
      | cons hv h =>
        have hall := List.Forall₂.cons hv h
        simp only [Handler.storedPaths]
        rcases both_or_neither (Value.Alike.isSome_mapM_ofValue? hall) with
          ⟨hvs, hws⟩ | ⟨paths, paths', hvs, hws⟩
        · rw [hvs, hws]
          exact .dropped [] []
        · have hlength : paths.length = paths'.length := by
            rw [length_of_mapM_eq_some hvs, length_of_mapM_eq_some hws, hall.length_eq]
          rw [hvs, hws]
          exact .answer (pathUnder_alike negate _ hlength)
    | _ => exact .dropped [] []
  | _ => exact .dropped [] []

theorem handler_alike (k : HandlerKind) (h : c.Alike d) (tableAlias : String) :
    Outcome.Alike (k.handler c tableAlias) (k.handler d tableAlias) := by
  cases k with
  | linkedToAny table owner target key strategy =>
    exact linkedToAny_alike table owner target key strategy h tableAlias
  | hasLinked table owner key => exact hasLinked_alike table owner key h tableAlias
  | joinedColumn joinClause column => exact joinedColumn_alike joinClause column h tableAlias
  | storedPaths column => exact storedPaths_alike column h tableAlias

end HandlerKind

/-! ### Clauses -/

theorem Clause.toCriterion_alike {c d : Clause} (h : c.Alike d) (rawValue : Bool) :
    (∃ n m, c.toCriterion rawValue = .error n ∧ d.toCriterion rawValue = .error m) ∨
      ∃ x y, c.toCriterion rawValue = .ok x ∧ d.toCriterion rawValue = .ok y ∧ x.Alike y := by
  obtain ⟨field, condition, v, negate⟩ := c
  obtain ⟨field', condition', w, negate'⟩ := d
  obtain ⟨hfield, hcondition, hnegate, hvalue⟩ := h
  cases hfield
  cases hcondition
  cases hnegate
  simp only [toCriterion]
  cases Operator.ofCondition? condition with
  | none => exact Or.inl ⟨_, _, rfl, rfl⟩
  | some op =>
    cases field.identifier? with
    | none => exact Or.inl ⟨_, _, rfl, rfl⟩
    | some name =>
      simp only [hvalue.fits_eq op]
      split
      · exact Or.inl ⟨_, _, rfl, rfl⟩
      · exact Or.inr ⟨_, _, rfl, rfl, .mk name op negate hvalue⟩

namespace SearchTarget

variable {t : SearchTarget} {r : Registry}

theorem plainOutcome_alike (t : SearchTarget) {c d : Criterion} (h : c.Alike d) :
    Outcome.Alike (t.plainOutcome c) (t.plainOutcome d) := by
  rw [plainOutcome, plainOutcome, h.field_eq]
  split
  · exact Criterion.plain_alike h _
  · exact (Criterion.plain_alike h d.field).map_notices _ _

theorem outcome_alike (hr : t.Registers r) {c d : Criterion} (h : c.Alike d) :
    Outcome.Alike (t.outcome c) (t.outcome d) := by
  rw [outcome, outcome, h.field_eq, hr.handlers, r.lookup_handlers d.field]
  cases r.lookup d.field with
  | none => exact t.plainOutcome_alike h
  | some k =>
    have hhandler := k.handler_alike h t.tableAlias
    simp only [Option.map_some]
    generalize k.handler c t.tableAlias = x at hhandler ⊢
    generalize k.handler d t.tableAlias = y at hhandler ⊢
    cases hhandler with
    | failed e e' => exact .failed e e'
    | kept ns ms h => exact .kept ns ms h
    | dropped ns ms =>
      simp only
      split
      · exact (t.plainOutcome_alike h).map_notices _ _
      · exact .dropped _ _

theorem clauseOutcome_alike (hr : t.Registers r) {c d : Clause} (h : c.Alike d) :
    Outcome.Alike (t.clauseOutcome c) (t.clauseOutcome d) := by
  rw [clauseOutcome, clauseOutcome, h.field]
  rcases Clause.toCriterion_alike h (d.field.string?.any t.isHandled) with
    ⟨n, m, hc, hd⟩ | ⟨x, y, hc, hd, hxy⟩
  · rw [hc, hd]
    exact .dropped _ _
  · rw [hc, hd]
    exact outcome_alike hr hxy

theorem clauseFragment_alike (hr : t.Registers r) {c d : Clause} (h : c.Alike d) :
    Option.Rel Fragment.Alike (t.clauseFragment c) (t.clauseFragment d) := by
  have houtcome := clauseOutcome_alike hr h
  rw [clauseFragment, clauseFragment]
  generalize t.clauseOutcome c = x at houtcome ⊢
  generalize t.clauseOutcome d = y at houtcome ⊢
  cases houtcome with
  | kept ns ms h => exact .some h
  | dropped ns ms => exact .none
  | failed e e' => exact .none

theorem filterMap_clauseFragment_alike (hr : t.Registers r) {cs ds : List Clause}
    (h : List.Forall₂ Clause.Alike cs ds) :
    List.Forall₂ Fragment.Alike (cs.filterMap t.clauseFragment)
      (ds.filterMap t.clauseFragment) :=
  List.rel_filterMap (fun _ _ hcd => clauseFragment_alike hr hcd) h

end SearchTarget

/-! ### Plans -/

theorem SearchPlan.whereClause_congr {plan plan' : SearchPlan}
    (h : plan.predicates.map Predicate.enclosed = plan'.predicates.map Predicate.enclosed) :
    plan.whereClause = plan'.whereClause := by
  have hempty : plan.predicates.isEmpty = plan'.predicates.isEmpty := by
    rw [← List.isEmpty_map (f := Predicate.enclosed), h, List.isEmpty_map]
  rw [whereClause, whereClause, h, hempty]

structure SearchPlan.Alike (plan plan' : SearchPlan) : Prop where
  joins : plan.joins = plan'.joins
  dataText : plan.dataQuery.text = plan'.dataQuery.text
  countText : plan.countQuery.text = plan'.countQuery.text
  dataParameters : plan.dataQuery.parameters.length = plan'.dataQuery.parameters.length
  countParameters : plan.countQuery.parameters.length = plan'.countQuery.parameters.length

theorem Fragment.Alike.flatMap_join {fs gs : List Fragment} (h : List.Forall₂ Fragment.Alike fs gs) :
    fs.flatMap (·.join.toList) = gs.flatMap (·.join.toList) := by
  induction h with
  | nil => rfl
  | cons hf _ ih => rw [List.flatMap_cons, List.flatMap_cons, hf.join, ih]

theorem Fragment.Alike.enclosed {fs gs : List Fragment} (h : List.Forall₂ Fragment.Alike fs gs) :
    (fs.map fun f => (Predicate.trimmed f.condition).enclosed)
      = gs.map fun g => (Predicate.trimmed g.condition).enclosed := by
  induction h with
  | nil => rfl
  | cons hf _ ih =>
    rw [List.map_cons, List.map_cons, ih, Predicate.enclosed, Predicate.enclosed,
      Predicate.trimmed, Predicate.trimmed, hf.condition.text]

theorem Fragment.Alike.parameters {fs gs : List Fragment}
    (h : List.Forall₂ Fragment.Alike fs gs) :
    (fs.flatMap fun f => (Predicate.trimmed f.condition).parameters).length
      = (gs.flatMap fun g => (Predicate.trimmed g.condition).parameters).length := by
  induction h with
  | nil => rfl
  | cons hf _ ih =>
    rw [List.flatMap_cons, List.flatMap_cons, List.length_append, List.length_append, ih,
      Predicate.trimmed, Predicate.trimmed, List.length_map, List.length_map,
      hf.condition.parameters]

theorem Fragment.Alike.refl (f : Fragment) : f.Alike f := ⟨⟨rfl, rfl⟩, rfl⟩

namespace SearchTarget

theorem plan_alike (t : SearchTarget) (window window' : Int × Int) (joins columns : List String)
    {fs gs : List Fragment} (h : List.Forall₂ Fragment.Alike fs gs) :
    (t.plan window joins fs columns).Alike (t.plan window' joins gs columns) := by
  have hjoins : (t.plan window joins fs columns).joins = (t.plan window' joins gs columns).joins :=
    congrArg (fun js => (joins ++ js).foldl addJoin []) (Fragment.Alike.flatMap_join h)
  have hwhere : (t.plan window joins fs columns).whereClause
      = (t.plan window' joins gs columns).whereClause := by
    apply SearchPlan.whereClause_congr
    show (fs.map _).map _ = (gs.map _).map _
    rw [List.map_map, List.map_map]
    exact Fragment.Alike.enclosed h
  have hsource : (t.plan window joins fs columns).source
      = (t.plan window' joins gs columns).source := by
    rw [SearchPlan.source, SearchPlan.source, hjoins, hwhere]
    rfl
  have hlength : (t.plan window joins fs columns).filterParameters.length
      = (t.plan window' joins gs columns).filterParameters.length := by
    show ((fs.map _).flatMap _).length = ((gs.map _).flatMap _).length
    rw [List.flatMap_map, List.flatMap_map]
    exact Fragment.Alike.parameters h
  constructor
  · exact hjoins
  · rw [SearchPlan.dataQuery_text, SearchPlan.dataQuery_text, hsource]
    rfl
  · rw [SearchPlan.countQuery_text, SearchPlan.countQuery_text, hsource]
    rfl
  · show List.length (_ ++ _) = List.length (_ ++ _)
    rw [List.length_append, List.length_append, hlength]
    rfl
  · exact hlength

end SearchTarget

namespace Entity

/-- Values never reach the SQL. Two requests for one entity whose clauses are alike, under the
same required predicates and whatever their pages, are compiled to plans with the same joins, the
same texts and as many parameters. -/
theorem compile_alike (e : Entity) (settings : Settings) {request request' : SearchRequest}
    (h : List.Forall₂ Clause.Alike request.criteria request'.criteria)
    (required : List (String → Fragment)) :
    ∃ plan plan', (e.compile settings request required).result = .ok plan ∧
      (e.compile settings request' required).result = .ok plan' ∧ plan.Alike plan' := by
  refine ⟨_, _, SearchTarget.compile_registered e.target_registers settings request required,
    SearchTarget.compile_registered e.target_registers settings request' required,
    e.target.plan_alike _ _ _ _ ?_⟩
  refine List.rel_append (SearchTarget.filterMap_clauseFragment_alike e.target_registers h) ?_
  exact List.forall₂_same.2 fun f _ => Fragment.Alike.refl f

theorem compile_alike_documents :
    ∃ plan plan',
      (documents.compile {}
          { criteria :=
              [{ field := "title", condition := "FRAGMENT", value := .text "' OR 1=1 --" },
                { field := "tags", condition := "ANY_OF",
                  value := .list [.int 3, .int 0, .int 8], negate := true }] }
          [activeOnly]).result = .ok plan ∧
      (documents.compile {}
          { criteria :=
              [{ field := "title", condition := "FRAGMENT", value := .text "map" },
                { field := "tags", condition := "ANY_OF",
                  value := .list [.int 4, .int (-7), .int 4], negate := true }]
            page := 3 }
          [activeOnly]).result = .ok plan' ∧ plan.Alike plan' := by
  refine documents.compile_alike {} (.cons ⟨rfl, rfl, rfl, .text _ _⟩ (.cons ⟨rfl, rfl, rfl, ?_⟩ .nil)) _
  exact .list (.cons (.positive (by decide) (by decide))
    (.cons (.nonPositive (by decide) (by decide))
      (.cons (.positive (by decide) (by decide)) .nil)))

end Entity

end CatalogSearch
