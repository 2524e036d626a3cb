import CatalogSearch.Criterion
import CatalogSearch.Failure
import CatalogSearch.Json.Writer

/-!
# Conditions

The conditions that a search can put on a row. A condition is kept as what it means; `text` writes
it as SQL with a question mark for each value, and `parameters` lists the values in the order of the
question marks. No value ever gets into the text.
-/

namespace CatalogSearch

/-- The comparisons with a value. -/
inductive Comparison where
  | equal
  | greaterThan
  | greaterOrEqual
  | lessThan
  | lessOrEqual
  deriving DecidableEq, Repr

def Comparison.sign : Comparison → String
  | equal => "="
  | greaterThan => ">"
  | greaterOrEqual => ">="
  | lessThan => "<"
  | lessOrEqual => "<="

/-- The comparison that an operator is, if it is one. -/
def Operator.comparison? : Operator → Option Comparison
  | equal => some .equal
  | greaterThan => some .greaterThan
  | greaterOrEqual => some .greaterOrEqual
  | lessThan => some .lessThan
  | lessOrEqual => some .lessOrEqual
  | _ => none

/-- The path of ids from a root to a node. -/
abbrev IdPath := List Int

/-- A path as it is stored: a JSON array without blanks. Ids of any number of digits are written,
although the digits that a runtime writes may be limited. -/
def IdPath.encode (path : IdPath) : String := Json.write (.list (path.map .int))

/-- The beginning that the stored form of every longer path under `path` shares. -/
def IdPath.stem (path : IdPath) : String :=
  String.ofList (path.encode.toList.dropLast) ++ ","

/-- The rows of a link table that point back at the searched row: their `owner` column holds its
`key`. -/
structure LinkedRows where
  table : String
  owner : String
  tableAlias : String
  key : String
  deriving DecidableEq, Repr

/-- What a subquery looks for. -/
inductive Subquery where
  | linked (rows : LinkedRows)
  | linkedTo (rows : LinkedRows) (target : String) (ids : List Int)
  /-- A path in a stored list of paths that is exactly this one. -/
  | pathIs (source : String) (path : IdPath)
  /-- A path in a stored list of paths that is one of these or goes on from one of them. -/
  | pathUnder (source : String) (paths : List IdPath)

namespace Subquery

def text : Subquery → String
  | linked r =>
    "EXISTS (SELECT 1 FROM " ++ r.table ++ " lt WHERE lt." ++ r.owner ++ " = " ++ r.tableAlias ++
      "." ++ r.key ++ ")"
  | linkedTo r target ids =>
    "EXISTS (SELECT 1 FROM " ++ r.table ++ " lt WHERE lt." ++ r.owner ++ " = " ++ r.tableAlias ++
      "." ++ r.key ++ " AND lt." ++ target ++ " IN (" ++ Query.placeholders ids.length ++ "))"
  | pathIs source _ => "EXISTS (SELECT 1 FROM json_each(" ++ source ++ ") je WHERE je.value = ?)"
  | pathUnder source paths =>
    "EXISTS (SELECT 1 FROM json_each(" ++ source ++ ") je WHERE " ++
      String.intercalate " OR " (paths.map fun _ => "je.value LIKE ? OR je.value = ?") ++ ")"

def parameters : Subquery → List Value
  | linked _ => []
  | linkedTo _ _ ids => ids.map .int
  | pathIs _ path => [.text path.encode]
  | pathUnder _ paths => paths.flatMap fun p => [.text (p.stem ++ "%"), .text p.encode]

end Subquery

/-- A condition on a row. -/
inductive Condition where
  | nothing
  | everything
  | compare (column : String) (comparison : Comparison) (value : Value)
  | isNull (column : String)
  | isNullOrEmpty (column : String)
  /-- The column's text holds a text somewhere. -/
  | contains (column : String) (part : Text)
  | oneOf (column : String) (values : List Value)
  | noneOf (column : String) (values : List Value)
  | subquery (s : Subquery)
  | noSubquery (s : Subquery)
  | negation (c : Condition)
  | either (c d : Condition)
  /-- A condition that is given as SQL. -/
  | given (text : String) (parameters : List Value)

namespace Condition

def text : Condition → String
  | nothing => "1=0"
  | everything => "1=1"
  | compare column comparison _ => column ++ " " ++ comparison.sign ++ " ?"
  | isNull column => column ++ " IS NULL"
  | isNullOrEmpty column => column ++ " IS NULL OR " ++ column ++ " = ''"
  | contains column _ => column ++ " LIKE ?"
  | oneOf column vs => column ++ " IN (" ++ Query.placeholders vs.length ++ ")"
  | noneOf column vs => column ++ " NOT IN (" ++ Query.placeholders vs.length ++ ")"
  | subquery s => s.text
  | noSubquery s => "NOT " ++ s.text
  | negation c => "NOT (" ++ c.text ++ ")"
  | either c d => c.text ++ " OR " ++ d.text
  | given text _ => text

def parameters : Condition → List Value
  | compare _ _ v => [v]
  | contains _ part => [.text ("%" ++ part ++ "%")]
  | oneOf _ vs => vs
  | noneOf _ vs => vs
  | subquery s => s.parameters
  | noSubquery s => s.parameters
  | negation c => c.parameters
  | either c d => c.parameters ++ d.parameters
  | given _ ps => ps
  | nothing | everything | isNull _ | isNullOrEmpty _ => []

/-- Any of no values holds of no row; its negation holds of every row. -/
def ofEmptySet (negate : Bool) : Condition := if negate then everything else nothing

def negateIf (negate : Bool) (c : Condition) : Condition := if negate then negation c else c

/-- Whether a subquery finds something, or whether it finds nothing. -/
def ofSubquery (negate : Bool) (s : Subquery) : Condition :=
  if negate then noSubquery s else subquery s

end Condition

/-- A condition with the join that it needs. -/
structure Fragment where
  condition : Condition
  join : Option String := none

/-- What became of a criterion: a fragment, or none, and the notices on the way. -/
structure Outcome where
  notices : List Notice := []
  fragment : Option Fragment := none

namespace Criterion

/-- The condition of a criterion on a column, or the notice that leaves the criterion out. -/
def plainCondition (c : Criterion) (column : String) : Except Failure (Except Notice Condition) :=
  if !c.operator.fits c.value then
    match c.operator with
    | .other _ => .error .unnamedOperator
    | op => .ok (.error (.unfit c.field c.value op))
  else
    .ok <| match c.operator, c.value with
    | .anyOf, .list [] => .ok (.ofEmptySet c.negate)
    | .anyOf, .list vs =>
      if vs.all Value.isScalar then
        .ok (if c.negate then .noneOf column (vs.map Value.bound)
          else .oneOf column (vs.map Value.bound))
      else .error (.nonScalarMembers c.field)
    | .contains, .text s => .ok (.negateIf c.negate (.contains column s))
    | .isEmpty, _ => .ok (.negateIf c.negate (.isNullOrEmpty column))
    | .equal, .null => .ok (.negateIf c.negate (.isNull column))
    | op, v =>
      match op.comparison? with
      | some comparison => .ok (.negateIf c.negate (.compare column comparison v.bound))
      | none => .error (.unsupported c.field op)

def plain (c : Criterion) (column : String) : Except Failure Outcome :=
  (c.plainCondition column).map fun
    | .ok condition => ⟨[], some ⟨condition, none⟩⟩
    | .error notice => ⟨[notice], none⟩

end Criterion

end CatalogSearch
