import CatalogSearch.Number.Binary64
import CatalogSearch.Text

/-!
# Values

What a client can send, a row can hold and a token can claim: the values of JSON, with integers of
any size kept apart from doubles. The fields of an object have an order, and the functions on fields
keep it: a field that is set again keeps its place, a new one goes to the end.
-/

namespace CatalogSearch

/-- A value of JSON. -/
inductive Value where
  | null
  | bool (b : Bool)
  | int (i : Int)
  | float (x : Binary64)
  | text (t : Text)
  | list (items : List Value)
  | object (fields : List (Text × Value))
  deriving Repr, Inhabited

/-- A result row: its columns in order, each with its value. -/
abbrev Row := List (Text × Value)

namespace Value

/-- The name of a value's kind in messages. -/
def kind : Value → String
  | null => "NoneType"
  | bool _ => "bool"
  | int _ => "int"
  | float _ => "float"
  | text _ => "str"
  | list _ => "list"
  | object _ => "dict"

/-- Null, false, zero and everything empty count as nothing. -/
def isTruthy : Value → Bool
  | null => false
  | bool b => b
  | int i => i != 0
  | float x => !(x.place.same (.point 0))
  | text t => !t.isEmpty
  | list items => !items.isEmpty
  | object fields => !fields.isEmpty

/-- The integer that a value is; a boolean is 0 or 1. -/
def asInteger? : Value → Option Int
  | bool b => some (if b then 1 else 0)
  | int i => some i
  | _ => none

/-- Null, a boolean, a number or a text. -/
def isScalar : Value → Bool
  | list _ => false
  | object _ => false
  | _ => true

end Value

namespace Row

def get? (row : Row) (column : Text) : Option Value := row.lookup column

/-- Writes a column, in its place or at the end. -/
def set (row : Row) (column : Text) (v : Value) : Row :=
  if row.any (·.1 == column) then row.map fun f => if f.1 == column then (column, v) else f
  else row ++ [(column, v)]

def erase (row : Row) (column : Text) : Row := row.filter (·.1 != column)

end Row

end CatalogSearch
