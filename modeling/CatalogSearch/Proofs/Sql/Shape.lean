import CatalogSearch.Proofs.Compilation
import CatalogSearch.Proofs.Sql.Tame

/-!
# The SQL that a criterion can come to

The shapes of the predicates of a search, as texts. A client chooses fields, operators and values,
and whatever the choice, the SQL of a criterion is one of the `SearchTarget.Shape`s: a test of a
column that the target knows or of a plain identifier, a constant, or a subquery of a handler of the
field. Every shape is inert and has no blanks at its ends.
-/

namespace CatalogSearch

open Sql

namespace Sql

inductive TestShape (column : String) : String → Prop where
  | compare (comparison : Comparison) :
    TestShape column (column ++ " " ++ comparison.sign ++ " ?")
  | contains : TestShape column (column ++ " LIKE ?")
  | isNull : TestShape column (column ++ " IS NULL")
  | isNullOrEmpty : TestShape column (emptyTest column)

inductive ColumnShape (column : String) : String → Prop where
  | test {s : String} (h : TestShape column s) : ColumnShape column s
  | negation {s : String} (h : TestShape column s) : ColumnShape column ("NOT (" ++ s ++ ")")
  | oneOf {n : Nat} (h : 0 < n) :
    ColumnShape column (column ++ " IN (" ++ Query.placeholders n ++ ")")
  | noneOf {n : Nat} (h : 0 < n) :
    ColumnShape column (column ++ " NOT IN (" ++ Query.placeholders n ++ ")")

end Sql

namespace SearchTarget

/-- The columns that a field can stand for: a listed column of the table, the column of a joined
table that is registered for the field, and the field itself if it is a plain identifier that the
target does not know. -/
inductive Names (t : SearchTarget) (r : Registry) (field : String) : String → Prop where
  | listed (hidentifier : isIdentifier field = true) (hlisted : field ∈ t.fields) :
    Names t r field (t.tableAlias ++ "." ++ field)
  | joined {joinClause column : String} (h : (field, .joinedColumn joinClause column) ∈ r) :
    Names t r field column
  | bare (hidentifier : isIdentifier field = true) (hunlisted : field ∉ t.fields)
      (hunhandled : t.isHandled field = false) : Names t r field field

inductive Shape (t : SearchTarget) (r : Registry) (field : String) : String → Prop where
  | column {column s : String} (hcolumn : t.Names r field column) (h : ColumnShape column s) :
    Shape t r field s
  | nothing : Shape t r field "1=0"
  | everything : Shape t r field "1=1"
  | found {k : HandlerKind} {q : Subquery} (hk : (field, k) ∈ r) (h : k.Asks t.tableAlias q) :
    Shape t r field q.text
  | notFound {k : HandlerKind} {q : Subquery} (hk : (field, k) ∈ r) (h : k.Asks t.tableAlias q) :
    Shape t r field ("NOT " ++ q.text)

end SearchTarget

def HandlerKind.names : HandlerKind → List String
  | linkedToAny table owner target key _ => [table, owner, target, key]
  | hasLinked table owner key => [table, owner, key]
  | joinedColumn _ column => [column]
  | storedPaths column => [column]

def HandlerKind.joinsLinks : HandlerKind → Bool
  | linkedToAny _ _ _ _ .join => true
  | _ => false

/-- A registry in which every name is one and no link table is joined. -/
structure Registry.Named (r : Registry) : Prop where
  names : ∀ entry ∈ r, ∀ s ∈ entry.2.names, Name s
  links : ∀ entry ∈ r, entry.2.joinsLinks = false

/-! ### The shapes cover everything -/

theorem Condition.Tests.shape {column : String} {c : Condition} (h : Tests column c) :
    TestShape column c.text := by
  cases h with
  | compare comparison _ => exact .compare comparison
  | isNull => exact .isNull
  | isNullOrEmpty => exact .isNullOrEmpty
  | contains _ => exact .contains

namespace SearchTarget

variable {t : SearchTarget} {r : Registry} {field : String}

theorem shape_ofEmptySet (negate : Bool) : t.Shape r field (Condition.ofEmptySet negate).text := by
  cases negate with
  | false => exact .nothing
  | true => exact .everything

theorem shape_onColumn {column : String} (hcolumn : t.Names r field column) {c : Condition}
    (h : c.OnColumn column) : t.Shape r field c.text := by
  cases h with
  | test negate h =>
    cases negate with
    | false => exact .column hcolumn (.test h.shape)
    | true => exact .column hcolumn (.negation h.shape)
  | oneOf hne _ =>
    refine .column hcolumn (.oneOf ?_)
    rw [List.length_map]
    exact List.length_pos_iff.2 hne
  | noneOf hne _ =>
    refine .column hcolumn (.noneOf ?_)
    rw [List.length_map]
    exact List.length_pos_iff.2 hne
  | emptySet negate => exact shape_ofEmptySet negate

/-- The text of whatever a criterion comes to is one of the shapes. -/
theorem Emits.shape (hnamed : r.Named) {f : Fragment} (h : t.Emits r field f) :
    t.Shape r field f.condition.text := by
  cases h with
  | handled hk h =>
    cases h with
    | emptySet negate => exact shape_ofEmptySet negate
    | subquery negate h =>
      cases negate with
      | false => exact .found hk h
      | true => exact .notFound hk h
    | joinedLink _ => exact absurd (hnamed.links _ hk) (by simp [HandlerKind.joinsLinks])
    | column h => exact shape_onColumn (.joined hk) h
  | listed hidentifier hlisted h => exact shape_onColumn (.listed hidentifier hlisted) h
  | bare hidentifier hunlisted hunhandled h =>
    exact shape_onColumn (.bare hidentifier hunlisted hunhandled) h

end SearchTarget

/-! ### The shapes are inert -/

namespace Sql

theorem flat_sign (comparison : Comparison) : Flat comparison.sign := by
  cases comparison <;> decide

theorem TestShape.nested {column s : String} (hcolumn : Flat column) (h : TestShape column s) :
    Nested s ∨ s = emptyTest column := by
  cases h with
  | compare comparison =>
    have hblank : Flat " " := by decide
    have hmark : Flat " ?" := by decide
    exact Or.inl (((hcolumn.append hblank).append (flat_sign comparison)).append hmark).nested
  | contains =>
    have hlike : Flat " LIKE ?" := by decide
    exact Or.inl (hcolumn.append hlike).nested
  | isNull =>
    have hnull : Flat " IS NULL" := by decide
    exact Or.inl (hcolumn.append hnull).nested
  | isNullOrEmpty => exact Or.inr rfl

theorem inert_members {column word : String} (hcolumn : Flat column) (hword : Flat word)
    (n : Nat) : Inert (column ++ word ++ enclose (Query.placeholders n)) :=
  ((hcolumn.append hword).nested.append (flat_placeholders n).nested.enclose).inert

theorem ColumnShape.inert {column s : String} (hcolumn : Flat column)
    (h : ColumnShape column s) : Inert s := by
  cases h with
  | test h =>
    rcases h.nested hcolumn with hs | rfl
    · exact hs.inert
    · exact inert_emptyTest hcolumn.nested
  | @negation s h =>
    rcases h.nested hcolumn with hs | rfl
    · have hnot : Flat "NOT " := by decide
      rw [not_enclosed]
      exact (hnot.nested.append hs.enclose).inert
    · exact inert_not_emptyTest hcolumn.nested
  | @oneOf n _ =>
    have htext : column ++ " IN (" ++ Query.placeholders n ++ ")"
        = column ++ " IN " ++ enclose (Query.placeholders n) := by
      rw [show " IN (" = " IN " ++ "(" from rfl, enclose]
      simp only [String.append_assoc]
    rw [htext]
    exact inert_members hcolumn (by decide) n
  | @noneOf n _ =>
    have htext : column ++ " NOT IN (" ++ Query.placeholders n ++ ")"
        = column ++ " NOT IN " ++ enclose (Query.placeholders n) := by
      rw [show " NOT IN (" = " NOT IN " ++ "(" from rfl, enclose]
      simp only [String.append_assoc]
    rw [htext]
    exact inert_members hcolumn (by decide) n

theorem nested_exists {inner : String} (h : Nested inner) : Nested ("EXISTS " ++ enclose inner) := by
  have hexists : Flat "EXISTS " := by decide
  exact hexists.nested.append h.enclose

end Sql

theorem HandlerKind.Asks.nested {tableAlias : String} (halias : Name tableAlias) {k : HandlerKind}
    (hk : ∀ s ∈ k.names, Name s) {q : Subquery} (h : Asks tableAlias k q) : Nested q.text := by
  have hselect : Flat "SELECT 1 FROM " := by decide
  have heach : Flat "SELECT 1 FROM json_each" := by decide
  have hwhere : Flat " lt WHERE lt." := by decide
  have hequals : Flat " = " := by decide
  have hdot : Flat "." := by decide
  cases h with
  | @linkedTo table owner target key strategy ids hne =>
    have htable : Flat table := (hk table (by simp [names])).flat
    have howner : Flat owner := (hk owner (by simp [names])).flat
    have htarget : Flat target := (hk target (by simp [names])).flat
    have hkey : Flat key := (hk key (by simp [names])).flat
    have hand : Flat " AND lt." := by decide
    have hin : Flat " IN " := by decide
    have htext : (Subquery.linkedTo ⟨table, owner, tableAlias, key⟩ target ids).text
        = "EXISTS " ++ enclose ("SELECT 1 FROM " ++ table ++ " lt WHERE lt." ++ owner ++ " = " ++
            tableAlias ++ "." ++ key ++ " AND lt." ++ target ++ " IN " ++
            enclose (Query.placeholders ids.length)) := by
      rw [Subquery.text_linkedTo, enclose, enclose,
        show "EXISTS (SELECT 1 FROM " = "EXISTS " ++ "(" ++ "SELECT 1 FROM " from rfl,
        show " IN (" = " IN " ++ "(" from rfl, show "))" = ")" ++ ")" from rfl]
      simp only [String.append_assoc]
    rw [htext]
    refine nested_exists (Nested.append (Flat.nested ?_) (flat_placeholders ids.length).nested.enclose)
    exact (((((((((hselect.append htable).append hwhere).append howner).append hequals).append
      halias.flat).append hdot).append hkey).append hand).append htarget).append hin
  | @linked table owner key =>
    have htable : Flat table := (hk table (by simp [names])).flat
    have howner : Flat owner := (hk owner (by simp [names])).flat
    have hkey : Flat key := (hk key (by simp [names])).flat
    have htext : (Subquery.linked ⟨table, owner, tableAlias, key⟩).text
        = "EXISTS " ++ enclose ("SELECT 1 FROM " ++ table ++ " lt WHERE lt." ++ owner ++ " = " ++
            tableAlias ++ "." ++ key) := by
      rw [Subquery.text_linked, enclose,
        show "EXISTS (SELECT 1 FROM " = "EXISTS " ++ "(" ++ "SELECT 1 FROM " from rfl]
      simp only [String.append_assoc]
    rw [htext]
    refine nested_exists (Flat.nested ?_)
    exact ((((((hselect.append htable).append hwhere).append howner).append hequals).append
      halias.flat).append hdot).append hkey
  | @pathIs column path =>
    have hcolumn : Flat column := (hk column (by simp [names])).flat
    have hvalue : Flat " je WHERE je.value = ?" := by decide
    have htext : (Subquery.pathIs (tableAlias ++ "." ++ column) path).text
        = "EXISTS " ++ enclose ("SELECT 1 FROM json_each" ++
            enclose (tableAlias ++ "." ++ column) ++ " je WHERE je.value = ?") := by
      rw [Subquery.text_pathIs, enclose, enclose,
        show "EXISTS (SELECT 1 FROM json_each(" = "EXISTS " ++ "(" ++ "SELECT 1 FROM json_each" ++ "("
          from rfl,
        show ") je WHERE je.value = ?)" = ")" ++ " je WHERE je.value = ?" ++ ")" from rfl]
      simp only [String.append_assoc]
    have hsource := ((halias.flat.append hdot).append hcolumn).nested.enclose
    rw [htext]
    exact nested_exists ((heach.nested.append hsource).append hvalue.nested)
  | @pathUnder column paths hne =>
    have hcolumn : Flat column := (hk column (by simp [names])).flat
    have hrows : Flat " je WHERE " := by decide
    have htests : Flat (String.intercalate " OR "
        (paths.map fun _ => "je.value LIKE ? OR je.value = ?")) := by
      refine Flat.intercalate (by decide) ?_
      intro s hs
      obtain ⟨-, -, rfl⟩ := List.mem_map.1 hs
      decide
    have htext : (Subquery.pathUnder (tableAlias ++ "." ++ column) paths).text
        = "EXISTS " ++ enclose ("SELECT 1 FROM json_each" ++
            enclose (tableAlias ++ "." ++ column) ++ " je WHERE " ++
            String.intercalate " OR "
              (paths.map fun _ => "je.value LIKE ? OR je.value = ?")) := by
      rw [Subquery.text_pathUnder, enclose, enclose,
        show "EXISTS (SELECT 1 FROM json_each(" = "EXISTS " ++ "(" ++ "SELECT 1 FROM json_each" ++ "("
          from rfl,
        show ") je WHERE " = ")" ++ " je WHERE " from rfl]
      simp only [String.append_assoc]
    have hsource := ((halias.flat.append hdot).append hcolumn).nested.enclose
    rw [htext]
    exact nested_exists (((heach.nested.append hsource).append hrows.nested).append htests.nested)

namespace SearchTarget

variable {t : SearchTarget} {r : Registry} {field : String}

theorem name_tableAlias (hr : t.Registers r) : Name t.tableAlias where
  ne := by
    cases hempty : t.tableAlias.isEmpty with
    | false => rfl
    | true => simp [tableAlias, mainAlias, String.isEmpty_iff] at hempty
  chars := by
    have hmain : "_main".toList.all isNamePart = true := by decide
    rw [tableAlias, mainAlias, String.toList_append, List.all_append,
      (Name.of_isIdentifier hr.table).chars, hmain]
    rfl

theorem Names.name (hr : t.Registers r) (hnamed : r.Named) {column : String}
    (h : t.Names r field column) : Name column := by
  cases h with
  | listed hidentifier _ => exact (name_tableAlias hr).qualify (.of_isIdentifier hidentifier)
  | joined hk => exact hnamed.names _ hk _ (by simp [HandlerKind.names])
  | bare hidentifier _ _ => exact .of_isIdentifier hidentifier

theorem Shape.inert (hr : t.Registers r) (hnamed : r.Named) {s : String} (h : t.Shape r field s) :
    Inert s := by
  have halias := name_tableAlias hr
  cases h with
  | column hcolumn h => exact h.inert (hcolumn.name hr hnamed).flat
  | nothing =>
    have hflat : Flat "1=0" := by decide
    exact hflat.nested.inert
  | everything =>
    have hflat : Flat "1=1" := by decide
    exact hflat.nested.inert
  | found hk h => exact (h.nested halias (hnamed.names _ hk)).inert
  | notFound hk h =>
    have hnot : Flat "NOT " := by decide
    exact (hnot.nested.append (h.nested halias (hnamed.names _ hk))).inert

end SearchTarget

/-! ### The shapes have no blanks at their ends -/

namespace Sql

theorem TestShape.ends {column s : String} (hcolumn : Name column) (h : TestShape column s) :
    Compact s := by
  have hhead := hcolumn.head
  cases h with
  | compare comparison =>
    exact ⟨head_append (head_append (head_append hhead)), last_append (by decide)⟩
  | contains => exact ⟨head_append hhead, last_append (by decide)⟩
  | isNull => exact ⟨head_append hhead, last_append (by decide)⟩
  | isNullOrEmpty => exact ⟨head_append (head_append (head_append hhead)), last_append (by decide)⟩

theorem ColumnShape.ends {column s : String} (hcolumn : Name column) (h : ColumnShape column s) :
    Compact s := by
  have hhead := hcolumn.head
  cases h with
  | test h => exact h.ends hcolumn
  | negation h => exact ⟨head_append (head_append (by decide)), last_append (by decide)⟩
  | oneOf _ => exact ⟨head_append (head_append (head_append hhead)), last_append (by decide)⟩
  | noneOf _ => exact ⟨head_append (head_append (head_append hhead)), last_append (by decide)⟩

end Sql

theorem Subquery.ends (q : Subquery) : Compact q.text := by
  cases q with
  | linked rows =>
    rw [text_linked]
    refine ⟨?_, last_append (by decide)⟩
    simp only [String.append_assoc]
    exact head_append (by decide)
  | linkedTo rows target ids =>
    rw [text_linkedTo]
    refine ⟨?_, last_append (by decide)⟩
    simp only [String.append_assoc]
    exact head_append (by decide)
  | pathIs source path =>
    rw [text_pathIs]
    exact ⟨head_append (head_append (by decide)), last_append (by decide)⟩
  | pathUnder source paths =>
    rw [text_pathUnder]
    refine ⟨?_, last_append (by decide)⟩
    simp only [String.append_assoc]
    exact head_append (by decide)

theorem SearchTarget.Shape.ends {t : SearchTarget} {r : Registry} {field : String}
    (hr : t.Registers r) (hnamed : r.Named) {s : String} (h : t.Shape r field s) : Compact s := by
  cases h with
  | column hcolumn h => exact h.ends (hcolumn.name hr hnamed)
  | nothing => exact ⟨by decide, by decide⟩
  | everything => exact ⟨by decide, by decide⟩
  | @found k q hk h => exact q.ends
  | @notFound k q hk h => exact ⟨head_append (by decide), last_append q.ends.finish⟩

theorem SearchTarget.Emits.shape_trimmed {t : SearchTarget} {r : Registry} (hr : t.Registers r)
    (hnamed : r.Named) {field : String} {f : Fragment} (h : t.Emits r field f) :
    t.Shape r field (Predicate.trimmed f.condition).sql := by
  have hshape := h.shape hnamed
  rw [Predicate.trimmed, (hshape.ends hr hnamed).trim]
  exact hshape

/-! ### The four entities -/

theorem Entity.registry_named (e : Entity) : e.registry.Named where
  names := by
    have hnames : (e.registry.all fun entry => entry.2.names.all fun s => decide (Name s)) = true := by
      cases e <;> decide
    intro entry hentry s hs
    exact of_decide_eq_true (List.all_eq_true.1 (List.all_eq_true.1 hnames entry hentry) s hs)
  links := by
    have hlinks : (e.registry.all fun entry => !entry.2.joinsLinks) = true := by
      cases e <;> rfl
    intro entry hentry
    simpa using List.all_eq_true.1 hlinks entry hentry

end CatalogSearch
