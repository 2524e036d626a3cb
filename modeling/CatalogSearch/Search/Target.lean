import CatalogSearch.Handler
import CatalogSearch.Search.Plan
import CatalogSearch.Settings

/-!
# Search targets

What can be searched: a table, the columns a client may name, and handlers for fields that are no
plain columns. `compile` makes a plan of a request. Each clause is compiled on its own; a field with
a handler is offered to it first, and a criterion that the handler declines is compiled as a plain
column if it is one. A field that is neither listed nor handled is compiled unqualified, so that
columns of joined tables still resolve.
-/

namespace CatalogSearch

/-- A table and what can be asked of it. -/
structure SearchTarget where
  table : String
  /-- The primary key; when empty it is guessed from the table's name. -/
  primaryKey : String := ""
  /-- The columns that a client may name. -/
  fields : List String := []
  handlers : List (String × Handler) := []
  /-- Joins of every search, as templates in the alias of the table. -/
  extraJoins : List String := []
  /-- Columns beside those of the table, as templates in its alias. -/
  extraColumns : List String := []

/-- The alias of a searched table. -/
def mainAlias (table : String) : String := table ++ "_main"

/-- The primary key that a table is expected to have: its name in the singular, with `_id`. -/
def guessPrimaryKey (table : String) : String :=
  let cs := table.toList
  String.ofList (if cs.getLast? = some 's' then cs.dropLast else cs) ++ "_id"

/-- A plan, or why there is none, and the notices on the way. -/
structure Compilation where
  notices : List Notice
  result : Except Failure SearchPlan

/-- The fragments of some outcomes and all notices, up to the first failure. -/
def Outcome.gather : List (Except Failure Outcome) → List Notice × Except Failure (List Fragment)
  | [] => ([], .ok [])
  | .error e :: _ => ([], .error e)
  | .ok o :: rest =>
    let (notices, fragments) := Outcome.gather rest
    (o.notices ++ notices, fragments.map (o.fragment.toList ++ ·))

/-- Fills in some templates, up to the first that cannot be. -/
def fillTemplates (templates : List String) (tableAlias : String) :
    Except Failure (List String) :=
  templates.mapM fun t =>
    match Template.fill t tableAlias with
    | .ok s => .ok s
    | .error e => .error (.template e)

namespace SearchTarget

def tableAlias (t : SearchTarget) : String := mainAlias t.table

/-- The column to sort and count by. -/
def keyColumn (t : SearchTarget) : String :=
  if t.primaryKey.isEmpty then guessPrimaryKey t.table else t.primaryKey

/-- Whether a field has a handler. -/
def isHandled (t : SearchTarget) (field : String) : Bool := (t.handlers.lookup field).isSome

/-- What becomes of a criterion on a plain column. -/
def plainOutcome (t : SearchTarget) (c : Criterion) : Except Failure Outcome :=
  if t.fields.contains c.field then c.plain (t.tableAlias ++ "." ++ c.field)
  else (c.plain c.field).map fun o =>
    { o with notices := .unlisted c.field t.table :: o.notices }

/-- What becomes of a criterion. -/
def outcome (t : SearchTarget) (c : Criterion) : Except Failure Outcome :=
  match t.handlers.lookup c.field with
  | none => t.plainOutcome c
  | some handler =>
    match handler c t.tableAlias with
    | .error e => .error e
    | .ok ⟨notices, some f⟩ => .ok ⟨notices, some f⟩
    | .ok ⟨notices, none⟩ =>
      if t.fields.contains c.field then
        (t.plainOutcome c).map fun o => { o with notices := notices ++ o.notices }
      else .ok ⟨notices ++ [.declined c.field c.operator], none⟩

/-- The size of the page, and how many rows come before it. A size that is not positive is left as
it is, to be corrected when the search is run. -/
def pageWindow (settings : Settings) (request : SearchRequest) : Int × Int :=
  let size := min request.pageSize settings.maxPageSize
  (size, if 0 < size then (max 1 request.page - 1) * size else 0)

def plan (t : SearchTarget) (window : Int × Int) (joins : List String) (fragments : List Fragment)
    (columns : List String) : SearchPlan where
  table := t.table
  tableAlias := t.tableAlias
  primaryKey := t.keyColumn
  pageSize := window.1
  offset := window.2
  joins := (joins ++ fragments.flatMap (·.join.toList)).foldl addJoin []
  predicates := fragments.map fun f => .trimmed f.condition
  extraColumns := columns

/-- Compiles a request. Every row must also satisfy the `required` conditions, which get the alias
of the table. -/
def compile (t : SearchTarget) (settings : Settings) (request : SearchRequest)
    (required : List (String → Fragment)) : Compilation :=
  if !isIdentifier t.table then ⟨[], .error (.invalidTable t.table)⟩
  else match fillTemplates t.extraJoins t.tableAlias with
  | .error e => ⟨[], .error e⟩
  | .ok joins =>
    let (criteria, skipped) := Criterion.ofClauses t.isHandled request.criteria
    let (notices, fragments) := Outcome.gather (criteria.map t.outcome)
    ⟨skipped ++ notices, do
      let asked ← fragments
      let columns ← fillTemplates t.extraColumns t.tableAlias
      return t.plan (pageWindow settings request) joins (asked ++ required.map (· t.tableAlias))
        columns⟩

end SearchTarget

end CatalogSearch
