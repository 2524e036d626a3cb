import CatalogSearch.Condition

/-!
# Field handlers

A field that is no plain column has a handler, which gets the criterion with its value exactly as it
was sent and either answers with a fragment or declines. There are four kinds: related ids over a
link table, the question whether anything is linked, a column of a joined table, and id paths in a
stored JSON list.
-/

namespace CatalogSearch

/-- A handler answers a criterion, given the alias of the searched table. -/
abbrev Handler := Criterion → String → Except Failure Outcome

/-- The values among some that are positive ids. Booleans are none. -/
def positiveIds (values : List Value) : List Int :=
  values.filterMap fun
    | .int i => if 0 < i then some i else none
    | _ => none

/-- The id path that a value is: an array of positive ids, with at least one. -/
def IdPath.ofValue? : Value → Option IdPath
  | .list [] => none
  | .list vs => if (positiveIds vs).length = vs.length then some (positiveIds vs) else none
  | _ => none

/-- How membership over a link table is asked. -/
inductive LinkStrategy where
  | exists_
  /-- By joining the link table; only for membership that is not negated. -/
  | join
  deriving DecidableEq, Repr

/-- The strategy of a name. -/
def LinkStrategy.ofValue (v : Value) : Except Failure LinkStrategy :=
  if v.same (.text "exists") then .ok .exists_
  else if v.same (.text "join") then .ok .join
  else if v.isKey then .error (.unknownStrategy v)
  else .error (.notAKey v.kind)

namespace Handler

def decline : Handler := fun _ _ => .ok {}

def answer (c : Condition) : Except Failure Outcome := .ok ⟨[], some ⟨c, none⟩⟩

/-- Whether a row is linked to any of some ids. Values that are no positive ids are dropped. -/
def linkedToAny (table owner target key : String) (strategy : LinkStrategy) : Handler :=
  fun c tableAlias =>
    match c.operator, c.value with
    | .anyOf, .list vs =>
      let ids := positiveIds vs
      if ids.isEmpty then answer (.ofEmptySet c.negate)
      else if strategy = .join ∧ c.negate = false then
        let link := table ++ "_any"
        let join := "INNER JOIN " ++ table ++ " AS " ++ link ++ " ON " ++ link ++ "." ++ owner ++
          " = " ++ tableAlias ++ "." ++ key
        .ok ⟨[], some ⟨.oneOf (link ++ "." ++ target) (ids.map .int), some join⟩⟩
      else answer (.ofSubquery c.negate (.linkedTo ⟨table, owner, tableAlias, key⟩ target ids))
    | _, _ => decline c tableAlias

/-- Whether a row has any linked row, asked by `EQ` with a boolean. -/
def hasLinked (table owner key : String) : Handler :=
  fun c tableAlias =>
    match c.operator, c.value with
    | .equal, .bool b =>
      answer (.ofSubquery (b == c.negate) (.linked ⟨table, owner, tableAlias, key⟩))
    | _, _ => decline c tableAlias

/-- A column of a joined table. The join clause is a template in the alias of the searched table. -/
def joinedColumn (joinClause column : String) : Handler :=
  fun c tableAlias => do
    let o ← c.plain column
    match o.fragment with
    | none => return o
    | some f =>
      match Template.fill joinClause tableAlias with
      | .ok join => return { o with fragment := some { f with join := some join } }
      | .error e => throw (.template e)

/-- Id paths in a column that holds a JSON list of them: `EQ` takes one path and asks for exactly
it, `ANY_OF` takes a list of paths and asks for one of them or a path that goes on from one. -/
def storedPaths (column : String) : Handler :=
  fun c tableAlias =>
    let source := tableAlias ++ "." ++ column
    match c.operator, c.value with
    | .equal, v =>
      match IdPath.ofValue? v with
      | some path => answer (.ofSubquery c.negate (.pathIs source path))
      | none => decline c tableAlias
    | .anyOf, .list [] => answer (.ofEmptySet c.negate)
    | .anyOf, .list vs =>
      match vs.mapM IdPath.ofValue? with
      | some paths => answer (.ofSubquery c.negate (.pathUnder source paths))
      | none => decline c tableAlias
    | _, _ => decline c tableAlias

end Handler

end CatalogSearch
