import CatalogSearch.Number.Shortest
import CatalogSearch.Text.Quoted
import CatalogSearch.Value

/-!
# Values in messages

`shown` is the form of a value inside a longer message, where a text stands in quotes; `display` is
the form of a value on its own, where a text is bare. A criterion's array is a fixed tuple, and its
`shownSettled` form has round brackets; arrays within it have square ones.

Every value has these forms. What a runtime may refuse to show, a value that nests too deep or an
integer with too many digits, is left out here; only readers have such limits (`Json.depthLimit`,
`Text.digitLimit`).
-/

namespace CatalogSearch.Value

def boolText (b : Bool) : String := if b then "True" else "False"

mutual

/-- A value as messages show it. -/
def shown : Value → String
  | null => "None"
  | bool b => boolText b
  | int i => toString i
  | float x => x.toText
  | text t => t.quoted
  | list items => "[" ++ shownItems items ++ "]"
  | object fields => "\x7b" ++ shownFields fields ++ "\x7d"

def shownItems : List Value → String
  | [] => ""
  | [v] => shown v
  | v :: w :: rest => shown v ++ ", " ++ shownItems (w :: rest)

def shownFields : List (Text × Value) → String
  | [] => ""
  | [(k, v)] => k.quoted ++ ": " ++ shown v
  | (k, v) :: f :: rest => k.quoted ++ ": " ++ shown v ++ ", " ++ shownFields (f :: rest)

end

/-- A list of values as messages show it. -/
def shownList (items : List Value) : String := "[" ++ shownItems items ++ "]"

/-- The value of a criterion as messages show it. -/
def shownSettled : Value → String
  | list [v] => "(" ++ shown v ++ ",)"
  | list items => "(" ++ shownItems items ++ ")"
  | v => shown v

/-- A value on its own. -/
def display : Value → Text
  | text t => t
  | v => shown v

end CatalogSearch.Value
