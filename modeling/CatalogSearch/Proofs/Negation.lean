import CatalogSearch.Proofs.Operators

/-!
# Negation

A negated criterion says the opposite of the plain one: it is accepted whenever the plain one is, has
the same parameters and the same join, and of every row it says what SQL makes of `NOT` in front of
the plain one. The fragments get there in different ways. A test of a column is wrapped in
`NOT (…)`, `IN` becomes `NOT IN`, a condition that holds of nothing becomes one that holds of
everything, a subquery gets a `NOT`, and the question whether anything is linked turns its answer
around. All of these are one relation between conditions, `Condition.Opposite`, and the criteria
follow by cases on what they come to.
-/

namespace CatalogSearch

open Sql

/-! ### Opposite conditions -/

/-- Conditions with the same parameters of which one says what `NOT` makes of the other. -/
structure Condition.Opposite (c d : Condition) : Prop where
  parameters : d.parameters = c.parameters
  meanings : ∃ e f, c.Says e ∧ d.Says f ∧ ∀ db row, f.truth db row = (e.truth db row).not

namespace Condition.Opposite

theorem symm {c d : Condition} (h : c.Opposite d) : d.Opposite c := by
  obtain ⟨e, f, he, hf, htruth⟩ := h.meanings
  refine ⟨h.parameters.symm, f, e, hf, he, ?_⟩
  intro db row
  rw [htruth, Truth.not_not]

theorem negation {c : Condition} {e : Expr} (h : c.Says e) :
    c.Opposite (Condition.negation c) :=
  ⟨rfl, e, .not e, h, h.negation, fun _ _ => rfl⟩

theorem noneOf {column : String} (hcolumn : FreeName column) {vs : List Value} (hne : vs ≠ []) :
    (Condition.oneOf column vs).Opposite (Condition.noneOf column vs) :=
  ⟨rfl, _, _, says_oneOf hcolumn hne, says_noneOf hcolumn hne,
    fun db row => Expr.truth_noMember db row _ _⟩

theorem everything : Condition.nothing.Opposite Condition.everything := by
  refine ⟨rfl, _, _, says_ofEmptySet false, says_ofEmptySet true, ?_⟩
  intro db row
  rw [truth_constant, truth_constant]
  rfl

theorem noSubquery {s : Subquery} (h : s.Named) :
    (Condition.subquery s).Opposite (Condition.noSubquery s) := by
  obtain ⟨e, hmeans⟩ := Subquery.says_subquery h
  exact ⟨rfl, e, .not e, hmeans false, hmeans true, fun _ _ => rfl⟩

end Condition.Opposite

/-! ### Opposite outcomes -/

/-- Two results of which the second is that of a negated criterion: they fail alike, they leave the
criterion out alike, or they answer with opposite fragments. -/
inductive Opposed : Except Failure Outcome → Except Failure Outcome → Prop where
  | failed (e : Failure) : Opposed (.error e) (.error e)
  | declined (notices : List Notice) : Opposed (.ok ⟨notices, none⟩) (.ok ⟨notices, none⟩)
  | answered {f g : Fragment} (notices : List Notice) (hjoin : g.join = f.join)
      (hparameters : g.condition.parameters = f.condition.parameters)
      (htruth : ∀ db row, ∃ t, f.truth? db row = some t ∧ g.truth? db row = some t.not) :
    Opposed (.ok ⟨notices, some f⟩) (.ok ⟨notices, some g⟩)

theorem Condition.Opposite.answered {c d : Condition} (h : c.Opposite d) (join : Option String) :
    Opposed (.ok ⟨[], some ⟨c, join⟩⟩) (.ok ⟨[], some ⟨d, join⟩⟩) := by
  obtain ⟨e, f, he, hf, htruth⟩ := h.meanings
  refine .answered [] rfl h.parameters ?_
  intro db row
  have hplain : read c.text c.parameters = some e := he.read_eq
  have hnegated : read d.text d.parameters = some f := hf.read_eq
  refine ⟨e.truth db row, ?_, ?_⟩
  · rw [Fragment.truth?, hplain, Option.map_some]
  · rw [Fragment.truth?, hnegated, Option.map_some, htruth]

/-! ### A criterion on a column -/

theorem Criterion.plain_opposed {column : String} (hcolumn : FreeName column) (field : String)
    (op : Operator) (value : Value) :
    Opposed ((mk field op value false).plain column) ((mk field op value true).plain column) := by
  have htest : ∀ {c : Condition} {e : Expr}, c.Says e →
      Opposed (.ok ⟨[], some ⟨c, none⟩⟩) (.ok ⟨[], some ⟨.negation c, none⟩⟩) :=
    fun h => (Condition.Opposite.negation h).answered none
  by_cases hfits : op.fits value = true
  · simp only [plain, plainCondition, hfits, Bool.not_true, Bool.false_eq_true, if_false, if_true]
    split
    case h_1 => exact Condition.Opposite.everything.answered none
    case h_2 vs hne =>
      split
      case isTrue =>
        have hbound : vs.map Value.bound ≠ [] := by simpa using hne
        exact (Condition.Opposite.noneOf hcolumn hbound).answered none
      case isFalse => exact .declined _
    case h_3 part => exact htest (Condition.says_contains hcolumn part)
    case h_4 => exact htest (Condition.says_isNullOrEmpty hcolumn)
    case h_5 => exact htest (Condition.says_isNull hcolumn)
    case h_6 =>
      split
      case h_1 comparison _ => exact htest (Condition.says_compare hcolumn comparison _)
      case h_2 => exact .declined _
  · simp only [plain, plainCondition, hfits]
    cases op <;> first | exact .failed _ | exact .declined _

/-! ### Handlers -/

namespace HandlerKind

/-- A handler whose tables and columns have names, and which asks its questions in subqueries. -/
def Named (tableAlias : String) : HandlerKind → Prop
  | linkedToAny table owner target key strategy =>
    FreeName table ∧ Name owner ∧ Name tableAlias ∧ Name key ∧ Name target ∧ strategy = .exists_
  | hasLinked table owner key => FreeName table ∧ Name owner ∧ Name tableAlias ∧ Name key
  | joinedColumn _ column => FreeName column
  | storedPaths column => Name tableAlias ∧ Name column

theorem answer_opposed {c d : Condition} (h : c.Opposite d) :
    Opposed (Handler.answer c) (Handler.answer d) := h.answered none

theorem linkedToAny_opposed {table owner target key tableAlias : String}
    (h : (linkedToAny table owner target key .exists_).Named tableAlias) (field : String)
    (op : Operator) (value : Value) :
    Opposed (Handler.linkedToAny table owner target key .exists_ ⟨field, op, value, false⟩ tableAlias)
      (Handler.linkedToAny table owner target key .exists_ ⟨field, op, value, true⟩ tableAlias) := by
  obtain ⟨htable, howner, halias, hkey, htarget, -⟩ := h
  simp only [Handler.linkedToAny]
  split
  case h_1 vs =>
    split
    case isTrue => exact answer_opposed .everything
    case isFalse hids =>
      have hne : positiveIds vs ≠ [] := by simpa using hids
      exact answer_opposed (.noSubquery ⟨htable, howner, halias, hkey, htarget, hne⟩)
  case h_2 => exact .declined []

theorem hasLinked_opposed {table owner key tableAlias : String}
    (h : (hasLinked table owner key).Named tableAlias) (field : String) (op : Operator)
    (value : Value) :
    Opposed (Handler.hasLinked table owner key ⟨field, op, value, false⟩ tableAlias)
      (Handler.hasLinked table owner key ⟨field, op, value, true⟩ tableAlias) := by
  have hsubquery : (Subquery.linked ⟨table, owner, tableAlias, key⟩).Named := h
  simp only [Handler.hasLinked]
  split
  case h_1 b =>
    -- a question whether nothing is linked is turned around into whether something is
    cases b with
    | true => exact answer_opposed (.noSubquery hsubquery)
    | false => exact answer_opposed (Condition.Opposite.noSubquery hsubquery).symm
  case h_2 => exact .declined []

theorem joinedColumn_opposed (joinClause : String) {column : String} (hcolumn : FreeName column)
    (field : String) (op : Operator) (value : Value) (tableAlias : String) :
    Opposed (Handler.joinedColumn joinClause column ⟨field, op, value, false⟩ tableAlias)
      (Handler.joinedColumn joinClause column ⟨field, op, value, true⟩ tableAlias) := by
  have hplain := Criterion.plain_opposed hcolumn field op value
  simp only [Handler.joinedColumn]
  generalize (Criterion.mk field op value false).plain column = r at hplain
  generalize (Criterion.mk field op value true).plain column = r' at hplain
  cases hplain with
  | failed e => exact .failed e
  | declined notices => exact .declined notices
  | answered notices hjoin hparameters htruth =>
    simp only [bind, Except.bind]
    cases Template.fill joinClause tableAlias with
    | ok join => exact .answered notices rfl hparameters htruth
    | error e => exact .failed _

theorem storedPaths_opposed {column tableAlias : String}
    (h : (storedPaths column).Named tableAlias) (field : String) (op : Operator) (value : Value) :
    Opposed (Handler.storedPaths column ⟨field, op, value, false⟩ tableAlias)
      (Handler.storedPaths column ⟨field, op, value, true⟩ tableAlias) := by
  have hsource : FreeName (tableAlias ++ "." ++ column) := FreeName.qualify h.1 h.2
  simp only [Handler.storedPaths]
  split
  case h_1 =>
    split
    case h_1 path _ => exact answer_opposed (.noSubquery (s := .pathIs _ path) hsource)
    case h_2 => exact .declined []
  case h_2 => exact answer_opposed .everything
  case h_3 vs hne =>
    split
    case h_1 paths hpaths =>
      have hpathsne : paths ≠ [] := by
        rintro rfl
        exact hne (List.length_eq_zero_iff.1 (length_of_mapM_eq_some hpaths).symm)
      exact answer_opposed (.noSubquery (s := .pathUnder _ paths) ⟨hsource, hpathsne⟩)
    case h_2 => exact .declined []
  case h_4 => exact .declined []

theorem handler_opposed {k : HandlerKind} {tableAlias : String} (h : k.Named tableAlias)
    (field : String) (op : Operator) (value : Value) :
    Opposed (k.handler ⟨field, op, value, false⟩ tableAlias)
      (k.handler ⟨field, op, value, true⟩ tableAlias) := by
  cases k with
  | linkedToAny table owner target key strategy =>
    have hstrategy : strategy = .exists_ := h.2.2.2.2.2
    subst hstrategy
    exact linkedToAny_opposed h field op value
  | hasLinked table owner key => exact hasLinked_opposed h field op value
  | joinedColumn joinClause column => exact joinedColumn_opposed joinClause h field op value _
  | storedPaths column => exact storedPaths_opposed h field op value

end HandlerKind

/-- A negated criterion says the opposite of the plain one, on a column as with every kind of
handler. -/
theorem Criterion.negate_opposed (field : String) (op : Operator) (value : Value) :
    (∀ column, FreeName column →
      Opposed ((mk field op value false).plain column) ((mk field op value true).plain column)) ∧
    (∀ (k : HandlerKind) tableAlias, k.Named tableAlias →
      Opposed (k.handler (mk field op value false) tableAlias)
        (k.handler (mk field op value true) tableAlias)) :=
  ⟨fun _ hcolumn => plain_opposed hcolumn field op value,
    fun _ _ hk => HandlerKind.handler_opposed hk field op value⟩

theorem Criterion.negate_opposed_mixed :
    (FreeName "d.note" ∧
      Opposed ((mk "note" .anyOf (.list [.int 1, .null]) false).plain "d.note")
        ((mk "note" .anyOf (.list [.int 1, .null]) true).plain "d.note")) ∧
    ∀ k ∈ [HandlerKind.linkedToAny "note_tags" "note_id" "tag_id" "note_id" .exists_,
        .hasLinked "signature_element_parents" "child_element_id" "signature_element_id",
        .joinedColumn Entity.noteOwnerJoin "note_owner.login", .storedPaths Entity.pathsColumn],
      k.Named "d" ∧
        Opposed (k.handler (mk "note" .anyOf (.list [.int 1, .null]) false) "d")
          (k.handler (mk "note" .anyOf (.list [.int 1, .null]) true) "d") := by
  obtain ⟨hplain, hhandler⟩ := negate_opposed "note" .anyOf (.list [.int 1, .null])
  have hcolumn : FreeName "d.note" := ⟨by decide, rfl⟩
  have htags : FreeName "note_tags" := ⟨by decide, rfl⟩
  have hparents : FreeName "signature_element_parents" := ⟨by decide, rfl⟩
  have hlogin : FreeName "note_owner.login" := ⟨by decide, rfl⟩
  have hnamed : ∀ k ∈ [HandlerKind.linkedToAny "note_tags" "note_id" "tag_id" "note_id" .exists_,
      .hasLinked "signature_element_parents" "child_element_id" "signature_element_id",
      .joinedColumn Entity.noteOwnerJoin "note_owner.login", .storedPaths Entity.pathsColumn],
      k.Named "d" := by
    simp only [List.forall_mem_cons]
    refine ⟨?_, ?_, hlogin, ?_, by simp⟩
    · exact ⟨htags, by decide, by decide, by decide, by decide, rfl⟩
    · exact ⟨hparents, by decide, by decide, by decide⟩
    · exact ⟨by decide, by decide⟩
  exact ⟨⟨hcolumn, hplain _ hcolumn⟩, fun k hk => ⟨hnamed k hk, hhandler k "d" (hnamed k hk)⟩⟩

end CatalogSearch
