import CatalogSearch.Condition

/-!
# Search plans

A search in its parts: joins, predicates that must all hold, and a page window. The two queries of a
paged search are written from one plan, so that they count and fetch the same rows. A plan can be
restricted further, without touching SQL text that is already there.
-/

namespace CatalogSearch

/-- A predicate of a search: the condition that it stands for, and its SQL as it stands between its
parentheses, with the values as the store takes them. -/
structure Predicate where
  condition : Condition
  sql : String
  parameters : List Value

namespace Predicate

/-- The predicate of a condition as it is written. -/
def ofCondition (c : Condition) : Predicate := ⟨c, c.text, c.parameters.map Value.bound⟩

/-- The predicate of a condition, without the blanks around its SQL. -/
def trimmed (c : Condition) : Predicate := ⟨c, Text.trim c.text, c.parameters.map Value.bound⟩

def enclosed (p : Predicate) : String := "(" ++ p.sql ++ ")"

end Predicate

/-- A join clause goes to the end of the joins, unless it is empty or there already. -/
def addJoin (joins : List String) (clause : String) : List String :=
  if clause.isEmpty || joins.contains clause then joins else joins ++ [clause]

/-- A search over one table. -/
structure SearchPlan where
  table : String
  tableAlias : String
  primaryKey : String
  pageSize : Int
  offset : Int
  joins : List String
  predicates : List Predicate
  extraColumns : List String

namespace SearchPlan

/-- The plan with one more predicate, and the join that it needs. -/
def restrict (plan : SearchPlan) (f : Fragment) : SearchPlan :=
  { plan with
    joins := f.join.toList.foldl addJoin plan.joins
    predicates := plan.predicates ++ [.ofCondition f.condition] }

/-- The text that holds all predicates. -/
def whereClause (plan : SearchPlan) : List String :=
  if plan.predicates.isEmpty then []
  else ["WHERE " ++ String.intercalate " AND " (plan.predicates.map Predicate.enclosed)]

/-- The tables and the predicates, which the two queries share. -/
def source (plan : SearchPlan) : String :=
  String.intercalate " "
    (("FROM " ++ plan.table ++ " AS " ++ plan.tableAlias) :: plan.joins ++ plan.whereClause)

def filterParameters (plan : SearchPlan) : List Value := plan.predicates.flatMap (·.parameters)

/-- The query for the rows of the page. -/
def dataQuery (plan : SearchPlan) : Query where
  text :=
    "SELECT DISTINCT " ++
      String.intercalate ", " ((plan.tableAlias ++ ".*") :: plan.extraColumns) ++ " " ++
      plan.source ++ " ORDER BY " ++ plan.tableAlias ++ "." ++ plan.primaryKey ++
      " DESC LIMIT ? OFFSET ?"
  parameters := plan.filterParameters ++ [.int plan.pageSize, .int plan.offset]

/-- The query for the number of all rows. -/
def countQuery (plan : SearchPlan) : Query where
  text :=
    "SELECT COUNT(DISTINCT " ++ plan.tableAlias ++ "." ++ plan.primaryKey ++ ") AS total " ++
      plan.source
  parameters := plan.filterParameters

end SearchPlan

end CatalogSearch
