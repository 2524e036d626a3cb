import CatalogSearch.Notice
import CatalogSearch.Request

/-!
# Criteria

A criterion is a clause that passed its checks: the operator is known, the field is a plain
identifier and the value has the shape that the operator takes. A field that has a handler skips the
last check, because handlers decide for themselves which shapes they accept.
-/

namespace CatalogSearch

/-- A checked filter clause. -/
structure Criterion where
  field : String
  operator : Operator
  value : Value := .null
  negate : Bool := false

/-- The first character of an identifier: a letter of ASCII or an underscore. -/
def isIdentifierStart (c : Char) : Bool :=
  ('a' ≤ c && c ≤ 'z') || ('A' ≤ c && c ≤ 'Z') || c == '_'

/-- A later character of an identifier: a digit of ASCII too. -/
def isIdentifierPart (c : Char) : Bool :=
  isIdentifierStart c || ('0' ≤ c && c ≤ '9')

/-- Whether a string is a plain identifier, which can stand in a query as it is. -/
def isIdentifier (s : String) : Bool :=
  match s.toList with
  | [] => false
  | c :: cs => isIdentifierStart c && cs.all isIdentifierPart

def Text.identifier? (t : Text) : Option String := t.string?.filter isIdentifier

/-- Checks a clause; `rawValue` lets any shape of value through. -/
def Clause.toCriterion (clause : Clause) (rawValue : Bool) : Except Notice Criterion :=
  match Operator.ofCondition? clause.condition with
  | none => .error (.unknownCondition clause.field clause.condition)
  | some op =>
    match clause.field.identifier? with
    | none => .error (.notIdentifier clause.field)
    | some field =>
      if !rawValue && !op.fits clause.value then .error (.misfit field clause.value op)
      else .ok ⟨field, op, clause.value, clause.negate⟩

namespace Criterion

/-- The criteria of some clauses in order, and a notice for each clause left out. -/
def ofClauses (isHandled : String → Bool) (clauses : List Clause) :
    List Criterion × List Notice :=
  let checked := clauses.map fun c => c.toCriterion (c.field.string?.any isHandled)
  (checked.filterMap fun
    | .ok c => some c
    | .error _ => none,
   checked.filterMap fun
    | .ok _ => none
    | .error n => some n)

end Criterion

end CatalogSearch
