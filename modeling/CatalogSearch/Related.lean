import CatalogSearch.Store

/-!
# Related rows

Rows that belong to the rows of a page are fetched for the whole page in one query and grouped by
their owner. Keys are compared as values, so `1`, `1.0` and `true` are one owner, spelled as it was
met first.
-/

namespace CatalogSearch

/-- Related rows by owner, in the order in which the owners were met. -/
abbrev Groups := List (Value × List Row)

def asKey (v : Value) : Except Failure Value :=
  if v.isKey then .ok v else .error (.notAKey v.kind)

/-- The first spelling of each key among some values. -/
def distinctKeys (values : List Value) : List Value :=
  values.foldl (fun seen v => if seen.any (v.same ·) then seen else seen ++ [v]) []

namespace Groups

def find? (groups : Groups) (owner : Value) : Option (List Row) :=
  (List.find? (fun g => owner.same g.1) groups).map (·.2)

/-- The groups with one more row. -/
def add (groups : Groups) (owner : Value) (row : Row) : Groups :=
  if groups.any fun g => owner.same g.1 then
    groups.map fun g => if owner.same g.1 then (g.1, g.2 ++ [row]) else g
  else groups ++ [(owner, [row])]

/-- Groups rows by the owner in a column, which the rows lose. -/
def ofRows (column : String) (rows : List Row) : Except Failure Groups :=
  rows.foldlM (fun groups row =>
    match row.get? column with
    | none => .error (.missingColumn column)
    | some v => do return groups.add (← asKey v) (row.erase column)) []

/-- The rows of the owner that a value names; no rows for an owner without a group. -/
def rowsOf (groups : Groups) (owner : Value) : Except Failure (List Row) := do
  return (groups.find? (← asKey owner)).getD []

/-- Gives each row a column with its related rows. -/
def attach (groups : Groups) (key column : String) (rows : List Row) : Except Failure (List Row) :=
  rows.mapM fun row => do
    let related ← groups.rowsOf ((row.get? key).getD .null)
    return row.set column (.list (related.map .object))

end Groups

/-- The name of a column without the table before it. -/
def bareColumn (column : String) : String :=
  String.ofList (column.toList.reverse.takeWhile (· != '.')).reverse

/-- The query for the related rows of some owners. -/
def relatedQuery (select column : String) (owners : List Value) : Query :=
  ⟨select ++ " WHERE " ++ column ++ " IN (" ++ Query.placeholders owners.length ++ ")", owners⟩

/-- Fetches the related rows of some owners, with one query, or with none when there are no
owners. -/
def loadRelated (select column : String) (owners : List Value) : Run Groups := do
  let keys ← Run.ofExcept (owners.mapM asKey)
  match distinctKeys keys with
  | [] => return []
  | ids =>
    let rows ← Run.ask (relatedQuery select column ids)
    Run.ofExcept (Groups.ofRows (bareColumn column) rows)

end CatalogSearch
