import CatalogSearch.Value

/-!
# Queries

A query for the store is SQL text in which a question mark stands for each parameter, in order. The
store has no booleans, so `bound` turns them into 0 and 1.
-/

namespace CatalogSearch

/-- SQL text and the values for its placeholders. -/
structure Query where
  text : String
  parameters : List Value := []

/-- The value as the store takes it. -/
def Value.bound : Value → Value
  | .bool b => .int (if b then 1 else 0)
  | v => v

namespace Query

def placeholders (n : Nat) : String := String.intercalate ", " (List.replicate n "?")

/-- How many placeholders a text holds. -/
def marks (text : String) : Nat := text.toList.count '?'

end Query

end CatalogSearch
