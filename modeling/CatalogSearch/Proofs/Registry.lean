import CatalogSearch.Entity
import CatalogSearch.Proofs.Template

/-!
# What a criterion can ask for

Every fragment of a search comes from a criterion in one of a few ways: as a test of a column, or as
the answer of one of the four kinds of handler. The relations `Condition.OnColumn`,
`HandlerKind.Answers` and `SearchTarget.Emits` list these ways once, and the theorems that end in
`_emits`, `_answers` and `_onColumn` say that there are no others. The proofs about placeholders,
about the shape of the SQL and about visibility go by cases on the relations and never open
`plainCondition` or a handler again.
-/

namespace CatalogSearch

/-! ### Conditions on a column -/

/-- A single test of a column, which is what a negation can stand around. -/
inductive Condition.Tests (column : String) : Condition → Prop where
  | compare (comparison : Comparison) {v : Value} (hscalar : v.isScalar = true) :
    Tests column (.compare column comparison v.bound)
  | isNull : Tests column (.isNull column)
  | isNullOrEmpty : Tests column (.isNullOrEmpty column)
  | contains (part : Text) : Tests column (.contains column part)

/-- A condition that a criterion can put on a column. -/
inductive Condition.OnColumn (column : String) : Condition → Prop where
  | test (negate : Bool) {c : Condition} (h : Tests column c) : OnColumn column (.negateIf negate c)
  | oneOf {vs : List Value} (hne : vs ≠ []) (hscalar : ∀ v ∈ vs, v.isScalar = true) :
    OnColumn column (.oneOf column (vs.map Value.bound))
  | noneOf {vs : List Value} (hne : vs ≠ []) (hscalar : ∀ v ∈ vs, v.isScalar = true) :
    OnColumn column (.noneOf column (vs.map Value.bound))
  | emptySet (negate : Bool) : OnColumn column (.ofEmptySet negate)

theorem Operator.isScalar_of_comparison {op : Operator} {comparison : Comparison} {v : Value}
    (hop : op.comparison? = some comparison) (hfits : op.fits v = true) : v.isScalar = true := by
  cases op <;> first | exact hfits | cases hop

/-- Compiling a criterion on a column gives a condition on that column, or leaves the criterion
out with a notice. It fails for no operator of the table. -/
theorem Criterion.plainCondition_onColumn (c : Criterion) (column : String)
    (hop : c.operator ∈ Operator.all) :
    ∃ r, c.plainCondition column = .ok r ∧ ∀ d, r = .ok d → d.OnColumn column := by
  obtain ⟨field, op, value, negate⟩ := c
  by_cases hfits : op.fits value = true
  · rw [plainCondition, if_neg (by simp [hfits])]
    refine ⟨_, rfl, ?_⟩
    intro d hd
    split at hd
    case h_1 =>
      cases hd
      exact .emptySet negate
    case h_2 vs hne _ _ =>
      split at hd
      case isTrue hall =>
        have hscalar : ∀ v ∈ vs, v.isScalar = true := List.all_eq_true.1 hall
        cases negate
        · cases hd
          exact .oneOf hne hscalar
        · cases hd
          exact .noneOf hne hscalar
      case isFalse => cases hd
    case h_3 part _ _ =>
      cases hd
      exact .test negate (.contains part)
    case h_4 =>
      cases hd
      exact .test negate .isNullOrEmpty
    case h_5 =>
      cases hd
      exact .test negate .isNull
    case h_6 op' v _ _ _ _ _ =>
      split at hd
      case h_1 comparison hcomparison =>
        cases hd
        exact .test negate (.compare comparison
          (Operator.isScalar_of_comparison hcomparison hfits))
      case h_2 => cases hd
  · rw [plainCondition, if_pos (by simp [hfits])]
    cases op with
    | other s => simp [Operator.all] at hop
    | _ => exact ⟨_, rfl, by simp⟩

theorem Criterion.plain_onColumn (c : Criterion) (column : String)
    (hop : c.operator ∈ Operator.all) :
    ∃ o, c.plain column = .ok o ∧
      ∀ f, o.fragment = some f → f.join = none ∧ f.condition.OnColumn column := by
  obtain ⟨r, hr, hon⟩ := c.plainCondition_onColumn column hop
  rw [plain, hr]
  refine ⟨_, rfl, ?_⟩
  intro f hf
  cases r with
  | error n => cases hf
  | ok d =>
    cases hf
    exact ⟨rfl, hon d rfl⟩

theorem Criterion.plain_of_unfit {c : Criterion} (hop : c.operator ∈ Operator.all)
    (hfits : c.operator.fits c.value = false) (column : String) :
    c.plain column = .ok ⟨[.unfit c.field c.value c.operator], none⟩ := by
  obtain ⟨field, op, value, negate⟩ := c
  dsimp only at hop hfits
  rw [plain, plainCondition, if_pos (by simp [hfits])]
  cases op with
  | other s => simp [Operator.all] at hop
  | _ => rfl

/-! ### Handlers -/

inductive HandlerKind where
  | linkedToAny (table owner target key : String) (strategy : LinkStrategy)
  | hasLinked (table owner key : String)
  | joinedColumn (joinClause column : String)
  | storedPaths (column : String)

namespace HandlerKind

def handler : HandlerKind → Handler
  | linkedToAny table owner target key strategy => .linkedToAny table owner target key strategy
  | hasLinked table owner key => .hasLinked table owner key
  | joinedColumn joinClause column => .joinedColumn joinClause column
  | storedPaths column => .storedPaths column

def linkJoin (table owner key tableAlias : String) : String :=
  "INNER JOIN " ++ table ++ " AS " ++ (table ++ "_any") ++ " ON " ++ (table ++ "_any") ++ "." ++
    owner ++ " = " ++ tableAlias ++ "." ++ key

/-- Whether the templates of a handler use only the alias. -/
def Plain : HandlerKind → Prop
  | joinedColumn joinClause _ => Template.Plain joinClause
  | _ => True

inductive Asks (tableAlias : String) : HandlerKind → Subquery → Prop where
  | linkedTo {table owner target key : String} {strategy : LinkStrategy} {ids : List Int}
      (hne : ids ≠ []) :
    Asks tableAlias (linkedToAny table owner target key strategy)
      (.linkedTo ⟨table, owner, tableAlias, key⟩ target ids)
  | linked {table owner key : String} :
    Asks tableAlias (hasLinked table owner key) (.linked ⟨table, owner, tableAlias, key⟩)
  | pathIs {column : String} (path : IdPath) :
    Asks tableAlias (storedPaths column) (.pathIs (tableAlias ++ "." ++ column) path)
  | pathUnder {column : String} {paths : List IdPath} (hne : paths ≠ []) :
    Asks tableAlias (storedPaths column) (.pathUnder (tableAlias ++ "." ++ column) paths)

/-- The fragments that a handler answers with. -/
inductive Answers (tableAlias : String) : HandlerKind → Fragment → Prop where
  | emptySet {k : HandlerKind} (negate : Bool) : Answers tableAlias k ⟨.ofEmptySet negate, none⟩
  | subquery {k : HandlerKind} {s : Subquery} (negate : Bool) (h : Asks tableAlias k s) :
    Answers tableAlias k ⟨.ofSubquery negate s, none⟩
  | joinedLink {table owner target key : String} {ids : List Int} (hne : ids ≠ []) :
    Answers tableAlias (linkedToAny table owner target key .join)
      ⟨.oneOf (table ++ "_any" ++ "." ++ target) (ids.map .int),
        some (linkJoin table owner key tableAlias)⟩
  | column {joinClause column : String} {c : Condition} (h : c.OnColumn column) :
    Answers tableAlias (joinedColumn joinClause column)
      ⟨c, some (Template.expand joinClause tableAlias)⟩

theorem ofEmptySet_answers {k : HandlerKind} {tableAlias : String} (negate : Bool) :
    ∃ o, Handler.answer (.ofEmptySet negate) = .ok o ∧
      ∀ f, o.fragment = some f → k.Answers tableAlias f := by
  refine ⟨_, rfl, ?_⟩
  intro f hf
  cases hf
  exact .emptySet negate

theorem ofSubquery_answers {k : HandlerKind} {tableAlias : String} {s : Subquery} (negate : Bool)
    (h : k.Asks tableAlias s) :
    ∃ o, Handler.answer (.ofSubquery negate s) = .ok o ∧
      ∀ f, o.fragment = some f → k.Answers tableAlias f := by
  refine ⟨_, rfl, ?_⟩
  intro f hf
  cases hf
  exact .subquery negate h

theorem decline_answers (k : HandlerKind) (c : Criterion) (tableAlias : String) :
    ∃ o, Handler.decline c tableAlias = .ok o ∧
      ∀ f, o.fragment = some f → k.Answers tableAlias f :=
  ⟨_, rfl, by simp⟩

theorem linkedToAny_answers (table owner target key : String) (strategy : LinkStrategy)
    (c : Criterion) (tableAlias : String) :
    ∃ o, Handler.linkedToAny table owner target key strategy c tableAlias = .ok o ∧
      ∀ f, o.fragment = some f →
        (linkedToAny table owner target key strategy).Answers tableAlias f := by
  rw [Handler.linkedToAny]
  split
  case h_1 vs _ _ =>
    simp only [List.isEmpty_iff]
    split
    case isTrue => exact ofEmptySet_answers c.negate
    case isFalse hne =>
      split
      case isTrue hjoin =>
        obtain ⟨rfl, -⟩ := hjoin
        refine ⟨_, rfl, ?_⟩
        intro f hf
        cases hf
        exact .joinedLink hne
      case isFalse => exact ofSubquery_answers c.negate (.linkedTo hne)
  case h_2 => exact decline_answers _ c tableAlias

theorem hasLinked_answers (table owner key : String) (c : Criterion) (tableAlias : String) :
    ∃ o, Handler.hasLinked table owner key c tableAlias = .ok o ∧
      ∀ f, o.fragment = some f → (hasLinked table owner key).Answers tableAlias f := by
  rw [Handler.hasLinked]
  split
  case h_1 b _ _ => exact ofSubquery_answers (b == c.negate) .linked
  case h_2 => exact decline_answers _ c tableAlias

theorem joinedColumn_answers {joinClause : String} (hplain : Template.Plain joinClause)
    (column : String) (c : Criterion) (hop : c.operator ∈ Operator.all) (tableAlias : String) :
    ∃ o, Handler.joinedColumn joinClause column c tableAlias = .ok o ∧
      ∀ f, o.fragment = some f → (joinedColumn joinClause column).Answers tableAlias f := by
  obtain ⟨o, ho, hon⟩ := c.plain_onColumn column hop
  rw [Handler.joinedColumn, ho, Template.fill_eq_expand hplain]
  cases hfragment : o.fragment with
  | none =>
    refine ⟨o, by simp only [bind, Except.bind, hfragment]; rfl, ?_⟩
    intro f hf
    rw [hfragment] at hf
    cases hf
  | some g =>
    refine ⟨_, by simp only [bind, Except.bind, hfragment]; rfl, ?_⟩
    intro f hf
    cases hf
    exact .column (hon g hfragment).2

theorem length_of_mapM_eq_some {α β : Type} {f : α → Option β} {xs : List α} {ys : List β}
    (h : xs.mapM f = some ys) : ys.length = xs.length := by
  induction xs generalizing ys with
  | nil =>
    cases h
    rfl
  | cons x xs ih =>
    simp only [List.mapM_cons, Option.bind_eq_bind, Option.bind_eq_some_iff] at h
    obtain ⟨y, -, zs, hzs, hys⟩ := h
    cases hys
    rw [List.length_cons, List.length_cons, ih hzs]

theorem storedPaths_answers (column : String) (c : Criterion) (tableAlias : String) :
    ∃ o, Handler.storedPaths column c tableAlias = .ok o ∧
      ∀ f, o.fragment = some f → (storedPaths column).Answers tableAlias f := by
  rw [Handler.storedPaths]
  split
  case h_1 v _ _ =>
    split
    case h_1 path _ => exact ofSubquery_answers c.negate (.pathIs path)
    case h_2 => exact decline_answers _ c tableAlias
  case h_2 => exact ofEmptySet_answers c.negate
  case h_3 vs hne _ _ =>
    split
    case h_1 paths hpaths =>
      have hlength := length_of_mapM_eq_some hpaths
      have hpathsne : paths ≠ [] := by
        rintro rfl
        exact hne (List.length_eq_zero_iff.1 hlength.symm)
      exact ofSubquery_answers c.negate (.pathUnder hpathsne)
    case h_2 => exact decline_answers _ c tableAlias
  case h_4 => exact decline_answers _ c tableAlias

/-- A handler answers with one of its own fragments or declines. It fails for no operator of the
table. -/
theorem handler_answers (k : HandlerKind) (hplain : k.Plain) (c : Criterion)
    (hop : c.operator ∈ Operator.all) (tableAlias : String) :
    ∃ o, k.handler c tableAlias = .ok o ∧ ∀ f, o.fragment = some f → k.Answers tableAlias f := by
  cases k with
  | linkedToAny table owner target key strategy =>
    exact linkedToAny_answers table owner target key strategy c tableAlias
  | hasLinked table owner key => exact hasLinked_answers table owner key c tableAlias
  | joinedColumn joinClause column => exact joinedColumn_answers hplain column c hop tableAlias
  | storedPaths column => exact storedPaths_answers column c tableAlias

end HandlerKind

/-! ### The text of a subquery -/

namespace Subquery

theorem text_linked (rows : LinkedRows) :
    (linked rows).text
      = "EXISTS (SELECT 1 FROM " ++ rows.table ++ " lt WHERE lt." ++ rows.owner ++ " = " ++
          rows.tableAlias ++ "." ++ rows.key ++ ")" := rfl

theorem text_linkedTo (rows : LinkedRows) (target : String) (ids : List Int) :
    (linkedTo rows target ids).text
      = "EXISTS (SELECT 1 FROM " ++ rows.table ++ " lt WHERE lt." ++ rows.owner ++ " = " ++
          rows.tableAlias ++ "." ++ rows.key ++ " AND lt." ++ target ++ " IN (" ++
          Query.placeholders ids.length ++ "))" := rfl

theorem text_pathIs (source : String) (path : IdPath) :
    (pathIs source path).text
      = "EXISTS (SELECT 1 FROM json_each(" ++ source ++ ") je WHERE je.value = ?)" := rfl

theorem text_pathUnder (source : String) (paths : List IdPath) :
    (pathUnder source paths).text
      = "EXISTS (SELECT 1 FROM json_each(" ++ source ++ ") je WHERE " ++
          String.intercalate " OR " (paths.map fun _ => "je.value LIKE ? OR je.value = ?") ++ ")" :=
  rfl

end Subquery

/-! ### Targets -/

/-- The fields that have a handler, each with its kind. -/
abbrev Registry := List (String × HandlerKind)

def Registry.handlers (r : Registry) : List (String × Handler) :=
  r.map fun entry => (entry.1, entry.2.handler)

theorem Registry.lookup_handlers (r : Registry) (field : String) :
    r.handlers.lookup field = (r.lookup field).map HandlerKind.handler := by
  rw [handlers]
  induction r with
  | nil => rfl
  | cons entry r ih =>
    rw [List.map_cons, List.lookup_cons, List.lookup_cons, ih]
    cases field == entry.1 <;> rfl

namespace SearchTarget

/-- A target whose handlers are those of a registry and whose templates use only the alias. -/
structure Registers (t : SearchTarget) (r : Registry) : Prop where
  table : isIdentifier t.table = true
  handlers : t.handlers = r.handlers
  joins : ∀ j ∈ t.extraJoins, Template.Plain j
  columns : ∀ c ∈ t.extraColumns, Template.Plain c
  plain : ∀ entry ∈ r, entry.2.Plain

/-- The fragments that a criterion on a field can come to. -/
inductive Emits (t : SearchTarget) (r : Registry) (field : String) : Fragment → Prop where
  | handled {k : HandlerKind} {f : Fragment} (hk : (field, k) ∈ r) (h : k.Answers t.tableAlias f) :
    Emits t r field f
  | listed {c : Condition} (hidentifier : isIdentifier field = true) (hlisted : field ∈ t.fields)
      (h : c.OnColumn (t.tableAlias ++ "." ++ field)) : Emits t r field ⟨c, none⟩
  | bare {c : Condition} (hidentifier : isIdentifier field = true) (hunlisted : field ∉ t.fields)
      (hunhandled : t.isHandled field = false) (h : c.OnColumn field) : Emits t r field ⟨c, none⟩

theorem plainOutcome_emits (t : SearchTarget) (r : Registry) (c : Criterion)
    (hop : c.operator ∈ Operator.all) (hidentifier : isIdentifier c.field = true)
    (hcolumn : c.field ∈ t.fields ∨ t.isHandled c.field = false) :
    ∃ o, t.plainOutcome c = .ok o ∧ ∀ f, o.fragment = some f → t.Emits r c.field f := by
  rw [plainOutcome]
  split
  case isTrue hlisted =>
    obtain ⟨o, ho, hon⟩ := c.plain_onColumn (t.tableAlias ++ "." ++ c.field) hop
    refine ⟨o, ho, ?_⟩
    rintro ⟨d, join⟩ hf
    obtain ⟨rfl, hd⟩ := hon _ hf
    exact .listed hidentifier (List.contains_iff_mem.1 hlisted) hd
  case isFalse hlisted =>
    have hunlisted : c.field ∉ t.fields := fun h => hlisted (List.contains_iff_mem.2 h)
    obtain ⟨o, ho, hon⟩ := c.plain_onColumn c.field hop
    refine ⟨_, by rw [ho]; rfl, ?_⟩
    rintro ⟨d, join⟩ hf
    obtain ⟨rfl, hd⟩ := hon _ hf
    exact .bare hidentifier hunlisted (hcolumn.resolve_left hunlisted) hd

/-- What becomes of a criterion. It comes to a fragment of its handler, to a condition on its
own column, or to nothing. -/
theorem outcome_emits {t : SearchTarget} {r : Registry} (hr : t.Registers r) (c : Criterion)
    (hop : c.operator ∈ Operator.all) (hidentifier : isIdentifier c.field = true) :
    ∃ o, t.outcome c = .ok o ∧ ∀ f, o.fragment = some f → t.Emits r c.field f := by
  rw [outcome]
  have hlookup := r.lookup_handlers c.field
  rw [← hr.handlers] at hlookup
  cases hk : r.lookup c.field with
  | none =>
    rw [hk, Option.map_none] at hlookup
    rw [hlookup]
    exact t.plainOutcome_emits r c hop hidentifier (Or.inr (by rw [isHandled, hlookup]; rfl))
  | some k =>
    rw [hk, Option.map_some] at hlookup
    rw [hlookup]
    have hmem : (c.field, k) ∈ r := by
      obtain ⟨before, after, rfl, -⟩ := List.lookup_eq_some_iff.1 hk
      simp
    obtain ⟨o, ho, hanswers⟩ := k.handler_answers (hr.plain _ hmem) c hop t.tableAlias
    simp only [ho]
    obtain ⟨notices, fragment⟩ := o
    cases fragment with
    | some f =>
      refine ⟨_, rfl, ?_⟩
      intro g hg
      cases hg
      exact .handled hmem (hanswers f rfl)
    | none =>
      simp only
      split
      case isTrue hlisted =>
        obtain ⟨o, ho, hemits⟩ :=
          t.plainOutcome_emits r c hop hidentifier (Or.inl (List.contains_iff_mem.1 hlisted))
        refine ⟨_, by rw [ho, Except.map], ?_⟩
        exact hemits
      case isFalse => exact ⟨_, rfl, by simp⟩

end SearchTarget

end CatalogSearch
