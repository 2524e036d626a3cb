import CatalogSearch.Proofs.Joins
import CatalogSearch.Proofs.LinkStrategies

/-!
# The aliases of joined link tables

A link table that is joined goes by an alias, and the predicate of the clause that asked for it names
a column of that alias. The alias is made from the name of the table alone. The join clause has the
owner and the key column in it as well, and clauses are told apart by their whole text. So each
predicate finds the alias that its own handler introduced, but two fields that link over one table
through different columns bring two joins with one alias between them. Different joins have different
aliases just when this does not happen (`LinkTable.aliases_apart_iff`).
-/

namespace CatalogSearch

namespace LinkTable

def linkAlias (l : LinkTable) : String := l.table ++ "_any"

/-- The columns that must agree where the table is joined. -/
def columnPair (l : LinkTable) (tableAlias : String) : String :=
  l.owner ++ " = " ++ tableAlias ++ "." ++ l.key

theorem join_eq (l : LinkTable) (tableAlias : String) :
    l.join tableAlias
      = "INNER JOIN " ++ l.table ++ " AS " ++ l.linkAlias ++ " ON " ++ l.linkAlias ++ "." ++
          l.columnPair tableAlias := by
  unfold join HandlerKind.linkJoin linkAlias columnPair
  simp only [String.append_assoc]

theorem linkAlias_inj {l m : LinkTable} : l.linkAlias = m.linkAlias ↔ l.table = m.table := by
  rw [linkAlias, linkAlias, String.append_left_inj]

/-- Over one table, joins differ in the columns that must agree. -/
theorem join_inj {l m : LinkTable} (h : l.table = m.table) (tableAlias : String) :
    l.join tableAlias = m.join tableAlias ↔ l.columnPair tableAlias = m.columnPair tableAlias := by
  rw [join_eq, join_eq, linkAlias_inj.2 h, h, String.append_right_inj]

theorem handler_declines {c : Criterion} (h : c.operator ≠ .anyOf) (l : LinkTable)
    (strategy : LinkStrategy) (tableAlias : String) :
    l.handler strategy c tableAlias = .ok {} := by
  rw [handler, Handler.linkedToAny]
  split
  case h_1 vs hop _ => exact absurd hop h
  case h_2 => rfl

end LinkTable

/-- A target with some fields that are asked by joining link tables. -/
def SearchTarget.joining (t : SearchTarget) (links : List (String × LinkTable)) : SearchTarget :=
  { t with handlers := links.map fun entry => (entry.1, entry.2.handler .join) }

/-- The link table that a clause joins, and the ids that it asks for: those of a clause that asks for
membership in one of the fields, does not negate it and lists an id. -/
def Clause.joined? (links : List (String × LinkTable)) (c : Clause) :
    Option (LinkTable × List Int) := do
  let field ← c.field.identifier?
  let l ← links.lookup field
  let ids ← c.ids?
  if Operator.ofCondition? c.condition = some .anyOf ∧ c.negate = false ∧ ids ≠ [] then
    some (l, ids)
  else none

def SearchRequest.joined (links : List (String × LinkTable)) (request : SearchRequest) :
    List (LinkTable × List Int) := request.criteria.filterMap (Clause.joined? links)

namespace SearchTarget

variable {t : SearchTarget} {links : List (String × LinkTable)} {c : Clause}

theorem lookup_joining (field : String) :
    (t.joining links).handlers.lookup field = (links.lookup field).map (·.handler .join) := by
  rw [joining]
  induction links with
  | nil => rfl
  | cons entry links ih =>
    rw [List.map_cons, List.lookup_cons, List.lookup_cons, ih]
    cases field == entry.1 <;> rfl

theorem exists_clauseOutcome_joining (htable : isIdentifier t.table = true) (c : Clause) :
    ∃ o, (t.joining links).clauseOutcome c = .ok o := by
  let r : Registry := links.map fun entry =>
    (entry.1, .linkedToAny entry.2.table entry.2.owner entry.2.target entry.2.key .join)
  -- the templates have no part in what becomes of a clause
  have hr : ({ t.joining links with extraJoins := [], extraColumns := [] } : SearchTarget).Registers
      r :=
    { table := htable
      handlers := by
        rw [Registry.handlers, List.map_map]
        rfl
      joins := nofun
      columns := nofun
      plain := by
        intro entry hentry
        obtain ⟨source, -, rfl⟩ := List.mem_map.1 hentry
        trivial }
  obtain ⟨o, ho, -⟩ := clauseOutcome_emits hr c
  exact ⟨o, ho⟩

/-- A clause that does not ask for membership in one of the fields needs no join. -/
theorem joins_clauseFragment_other
    (h : ∀ field l, c.AsksAnyOf field → isIdentifier field = true →
      links.lookup field ≠ some l) :
    Fragment.joins ((t.joining links).clauseFragment c).toList = [] := by
  cases ho : (t.joining links).clauseOutcome c with
  | error e =>
    rw [clauseFragment, ho]
    rfl
  | ok o =>
    rw [clauseFragment_eq ho]
    rw [clauseOutcome] at ho
    cases hc : c.toCriterion (c.field.string?.any (t.joining links).isHandled) with
    | error n =>
      rw [hc] at ho
      cases ho
      rfl
    | ok criterion =>
      rw [hc] at ho
      obtain ⟨hop, hfield, hidentifier, -, -⟩ := Clause.toCriterion_eq_ok hc
      rw [outcome_joins ho, handlerFragment, lookup_joining]
      cases hl : links.lookup criterion.field with
      | none => rfl
      | some l =>
        have hother : criterion.operator ≠ .anyOf := fun heq =>
          h criterion.field l ⟨hfield, by rw [hop, heq]⟩ hidentifier hl
        dsimp only [Option.map_some]
        rw [LinkTable.handler_declines hother]
        rfl

theorem clauseFragment_of_joined {l : LinkTable} {ids : List Int}
    (h : c.joined? links = some (l, ids)) :
    (t.joining links).clauseFragment c
      = some ⟨.oneOf l.column (ids.map .int), some (l.join t.tableAlias)⟩ := by
  simp only [Clause.joined?, Option.bind_eq_bind, Option.bind_eq_some_iff,
    Option.ite_none_right_eq_some] at h
  obtain ⟨field, hfield, l', hlookup, ids', hids, ⟨hop, hnegate, hne⟩, heq⟩ := h
  cases heq
  obtain ⟨hstring, hidentifier⟩ := Option.filter_eq_some_iff.1 hfield
  have hasks : c.AsksAnyOf field := ⟨Text.eq_ofString_of_string? hstring, hop⟩
  have hhandler : (t.joining links).handlers.lookup field = some (l.handler .join) := by
    rw [lookup_joining, hlookup, Option.map_some]
  obtain ⟨notices, houtcome⟩ := LinkTable.clauseOutcome_asked hidentifier hhandler hasks
  rw [clauseFragment_eq houtcome, hids, Option.map_some, LinkTable.fragment,
    if_neg (by simp [hne]), if_pos ⟨rfl, hnegate⟩]
  rfl

theorem joins_clauseFragment (c : Clause) :
    Fragment.joins ((t.joining links).clauseFragment c).toList
      = (c.joined? links).toList.map (·.1.join t.tableAlias) := by
  cases hjoined : c.joined? links with
  | some asked =>
    rw [clauseFragment_of_joined hjoined]
    rfl
  | none =>
    by_cases hasks : ∃ field l, c.AsksAnyOf field ∧ isIdentifier field = true ∧
        links.lookup field = some l
    · obtain ⟨field, l, hasks, hidentifier, hlookup⟩ := hasks
      have hhandler : (t.joining links).handlers.lookup field = some (l.handler .join) := by
        rw [lookup_joining, hlookup, Option.map_some]
      obtain ⟨notices, houtcome⟩ := LinkTable.clauseOutcome_asked hidentifier hhandler hasks
      have hfield : c.field.identifier? = some field := by
        rw [Text.identifier?, hasks.field, Text.string?_ofString]
        simp [Option.filter, hidentifier]
      rw [clauseFragment_eq houtcome]
      cases hids : c.ids? with
      | none => rfl
      | some ids =>
        -- the clause is negated or lists no id, so its fragment is no join
        simp only [Clause.joined?, hfield, hlookup, hids, Option.bind_eq_bind, Option.bind_some,
          hasks.condition, true_and, ite_eq_right_iff, reduceCtorEq, imp_false] at hjoined
        have hnone : (l.fragment .join (t.joining links).tableAlias c.negate ids).join = none := by
          rw [Option.eq_none_iff_forall_not_mem]
          intro j hj
          obtain ⟨-, hne, -, hnegate⟩ := LinkTable.fragment_join.1 hj
          exact hjoined ⟨hnegate, hne⟩
        simp [Fragment.joins, hnone]
    · exact joins_clauseFragment_other fun field l hc hidentifier hlookup =>
        hasks ⟨field, l, hc, hidentifier, hlookup⟩

theorem joins_filterMap_clauseFragment (clauses : List Clause) :
    Fragment.joins (clauses.filterMap (t.joining links).clauseFragment)
      = (clauses.filterMap (Clause.joined? links)).map (·.1.join t.tableAlias) := by
  induction clauses with
  | nil => rfl
  | cons c clauses ih =>
    have hsplit : ∀ {α β : Type} (f : α → Option β) (x : α) (xs : List α),
        (x :: xs).filterMap f = (f x).toList ++ xs.filterMap f := by
      intro α β f x xs
      cases hx : f x <;> simp [hx]
    rw [hsplit, hsplit, Fragment.joins_append, List.map_append, ih, joins_clauseFragment]

end SearchTarget

namespace LinkTable

/-- A plan that joins the table and asks some ids of it. The predicate is about the alias that the
join gives to the table. -/
structure Joined (l : LinkTable) (plan : SearchPlan) (ids : List Int) : Prop where
  join : "INNER JOIN " ++ l.table ++ " AS " ++ l.linkAlias ++ " ON " ++ l.linkAlias ++ "." ++
    l.columnPair plan.tableAlias ∈ plan.joins
  predicate : Predicate.trimmed (.oneOf (l.linkAlias ++ "." ++ l.target) (ids.map .int)) ∈
    plan.predicates

/-- Every request compiles. It has the joins of its clauses, each where it is first given, and each
clause that brings a join tests a column of the alias that its own join introduces. -/
theorem exists_plan_joining (links : List (String × LinkTable)) {t : SearchTarget}
    (htable : isIdentifier t.table = true) {joins columns : List String}
    (hjoins : fillTemplates t.extraJoins t.tableAlias = .ok joins)
    (hcolumns : fillTemplates t.extraColumns t.tableAlias = .ok columns) (settings : Settings)
    (request : SearchRequest) :
    ∃ plan, ((t.joining links).compile settings request []).result = .ok plan ∧
      plan.joins = firstSeen
        (joins ++ (request.joined links).map fun asked => asked.1.join t.tableAlias) ∧
      ∀ asked ∈ request.joined links, asked.1.Joined plan asked.2 := by
  have hcompiled := (t.joining links).compile_result settings request [] htable hjoins hcolumns
    fun c _ => SearchTarget.exists_clauseOutcome_joining htable c
  rw [List.map_nil, List.append_nil] at hcompiled
  have hplan : ∀ fragments, ((t.joining links).plan (SearchTarget.pageWindow settings request)
      joins fragments columns).joins = firstSeen (joins ++ Fragment.joins fragments) :=
    fun fragments => foldl_addJoin_firstSeen [] (joins ++ Fragment.joins fragments)
  have hgiven := hplan (request.criteria.filterMap (t.joining links).clauseFragment)
  rw [SearchTarget.joins_filterMap_clauseFragment] at hgiven
  refine ⟨_, hcompiled, hgiven, ?_⟩
  intro asked hasked
  obtain ⟨c, hc, hjoined⟩ := List.mem_filterMap.1 hasked
  constructor
  · rw [← join_eq, hgiven]
    refine mem_firstSeen.2 ⟨List.mem_append_right _ ?_, asked.1.join_ne_empty _⟩
    exact List.mem_map.2 ⟨asked, hasked, rfl⟩
  · have hfragment := SearchTarget.clauseFragment_of_joined (t := t) hjoined
    exact List.mem_map.2 ⟨_, List.mem_filterMap.2 ⟨c, hc, hfragment⟩, rfl⟩

/-- When joined link tables clash. Every clause that brings a join tests a column of the alias
that its own join introduces. Different joins have different aliases if and only if no link table is
joined in two ways. -/
theorem aliases_apart_iff (links : List (String × LinkTable)) {t : SearchTarget}
    (htable : isIdentifier t.table = true) {joins columns : List String}
    (hjoins : fillTemplates t.extraJoins t.tableAlias = .ok joins)
    (hcolumns : fillTemplates t.extraColumns t.tableAlias = .ok columns) (settings : Settings)
    (request : SearchRequest) :
    ∃ plan, ((t.joining links).compile settings request []).result = .ok plan ∧
      plan.joins = firstSeen
        (joins ++ (request.joined links).map fun asked => asked.1.join t.tableAlias) ∧
      (∀ asked ∈ request.joined links, asked.1.Joined plan asked.2) ∧
      ((∀ a ∈ request.joined links, ∀ b ∈ request.joined links,
          a.1.join t.tableAlias ≠ b.1.join t.tableAlias → a.1.linkAlias ≠ b.1.linkAlias) ↔
        ∀ a ∈ request.joined links, ∀ b ∈ request.joined links,
          a.1.table = b.1.table → a.1.columnPair t.tableAlias = b.1.columnPair t.tableAlias) := by
  obtain ⟨plan, hplan, hgiven, hjoined⟩ :=
    exists_plan_joining links htable hjoins hcolumns settings request
  refine ⟨plan, hplan, hgiven, hjoined, ?_⟩
  constructor
  · intro happart a ha b hb htables
    by_contra hpairs
    exact happart a ha b hb (fun h => hpairs ((join_inj htables _).1 h)) (linkAlias_inj.2 htables)
  · intro hsame a ha b hb hne halias
    have htables := linkAlias_inj.1 halias
    exact hne ((join_inj htables _).2 (hsame a ha b hb htables))

/-! ### Elements and their relatives -/

def elementParents : LinkTable :=
  ⟨"signature_element_parents", "child_element_id", "parent_element_id", "signature_element_id"⟩

/-- The elements below an element, over the table that also has those above it. -/
def elementChildren : LinkTable :=
  ⟨"signature_element_parents", "parent_element_id", "child_element_id", "signature_element_id"⟩

def relativesRequest (first second : String) : SearchRequest where
  criteria :=
    [⟨first, "ANY_OF", .list [.int 1], false⟩, ⟨second, "ANY_OF", .list [.int 2, .int 3], false⟩]

theorem aliases_apart_notes :
    isIdentifier "notes" = true ∧
    ∃ plan, ((SearchTarget.joining { table := "notes" } [("tags", noteTags),
          ("readers", ⟨"note_readers", "note_id", "user_id", "note_id"⟩)]).compile {}
        (relativesRequest "tags" "readers") []).result = .ok plan ∧
      plan.joins =
        ["INNER JOIN note_tags AS note_tags_any ON note_tags_any.note_id = notes_main.note_id",
          "INNER JOIN note_readers AS note_readers_any ON " ++
            "note_readers_any.note_id = notes_main.note_id"] ∧
      noteTags.Joined plan [1] := by
  have htable : isIdentifier "notes" = true := by decide
  obtain ⟨plan, hplan, hjoins, hjoined, -⟩ := aliases_apart_iff [("tags", noteTags),
    ("readers", ⟨"note_readers", "note_id", "user_id", "note_id"⟩)] (t := { table := "notes" })
    htable rfl rfl {} (relativesRequest "tags" "readers")
  refine ⟨htable, plan, hplan, ?_, hjoined (noteTags, [1]) List.mem_cons_self⟩
  rw [hjoins]
  decide +kernel

/-- An element with some parent and some child joins the table of parents twice, and both joins
introduce one alias. -/
theorem aliases_clash_elements :
    ∃ plan, ((SearchTarget.joining { table := "signature_elements" }
          [("parents", elementParents), ("children", elementChildren)]).compile {}
        (relativesRequest "parents" "children") []).result = .ok plan ∧
      plan.joins = [elementParents.join "signature_elements_main",
        elementChildren.join "signature_elements_main"] ∧
      elementParents.join "signature_elements_main" ≠
        elementChildren.join "signature_elements_main" ∧
      elementParents.Joined plan [1] ∧ elementChildren.Joined plan [2, 3] ∧
      elementParents.linkAlias = elementChildren.linkAlias := by
  have htable : isIdentifier "signature_elements" = true := by decide
  obtain ⟨plan, hplan, hjoins, hjoined⟩ := exists_plan_joining
    [("parents", elementParents), ("children", elementChildren)]
    (t := { table := "signature_elements" }) htable rfl rfl {}
    (relativesRequest "parents" "children")
  refine ⟨plan, hplan, ?_, by decide +kernel, hjoined (elementParents, [1]) List.mem_cons_self,
    hjoined (elementChildren, [2, 3]) (List.mem_cons_of_mem _ List.mem_cons_self), rfl⟩
  rw [hjoins]
  decide +kernel

end LinkTable

end CatalogSearch
