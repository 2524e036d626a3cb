import CatalogSearch.Text.Blank
import CatalogSearch.Text.Uppercase
import CatalogSearch.Value

/-!
# Operators

The operators of a filter clause, their names on the wire and the shape of value that each one
takes. A criterion that is built by hand can carry a name outside the table; `other` keeps it, and
no comparison is made with it.
-/

namespace CatalogSearch

/-- What a criterion asks of its field. -/
inductive Operator where
  | equal
  | greaterThan
  | greaterOrEqual
  | lessThan
  | lessOrEqual
  | anyOf
  | contains
  | isEmpty
  | other (name : String)
  deriving DecidableEq, Repr

namespace Operator

/-- The operators that a client can name. -/
def all : List Operator :=
  [equal, greaterThan, greaterOrEqual, lessThan, lessOrEqual, anyOf, contains, isEmpty]

def name : Operator → String
  | equal => "EQ"
  | greaterThan => "GT"
  | greaterOrEqual => "GTE"
  | lessThan => "LT"
  | lessOrEqual => "LTE"
  | anyOf => "ANY_OF"
  | contains => "FRAGMENT"
  | isEmpty => "IS_EMPTY"
  | other s => s

def ofName? (s : String) : Option Operator := all.find? (·.name == s)

/-- The operator that a client's condition means: blanks around it and its case do not count. -/
def ofCondition? (condition : Text) : Option Operator :=
  condition.string?.bind fun s => ofName? (Text.uppercase (Text.trim s))

/-- The operator of a name, `other` when the table has none. -/
def ofName (s : String) : Operator := (ofName? s).getD (other s)

/-- Whether a value has the shape that the operator takes: an array, a text, anything, or a
scalar. -/
def fits : Operator → Value → Bool
  | anyOf, .list _ => true
  | anyOf, _ => false
  | contains, .text _ => true
  | contains, _ => false
  | isEmpty, _ => true
  | _, v => v.isScalar

end Operator

end CatalogSearch
