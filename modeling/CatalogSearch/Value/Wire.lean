import CatalogSearch.Value

/-!
# Values on the wire

JSON has no number for what is not finite, UTF-8 has no bytes for half of a surrogate pair, and a
page is written only as deep as a fixed limit. What an answer holds is looked through for these
before it is written.
-/

namespace CatalogSearch.Value

mutual

/-- Whether every number in the value is finite. -/
def isFinite : Value → Bool
  | float .nan => false
  | float (.infinite _) => false
  | list items => areFinite items
  | object fields => fieldsAreFinite fields
  | _ => true

def areFinite : List Value → Bool
  | [] => true
  | v :: vs => isFinite v && areFinite vs

def fieldsAreFinite : List (Text × Value) → Bool
  | [] => true
  | (_, v) :: fs => isFinite v && fieldsAreFinite fs

end

mutual

/-- Whether every text in the value, the names of fields included, has bytes. -/
def isEncodable : Value → Bool
  | text t => !t.hasHalf
  | list items => areEncodable items
  | object fields => fieldsAreEncodable fields
  | _ => true

def areEncodable : List Value → Bool
  | [] => true
  | v :: vs => isEncodable v && areEncodable vs

def fieldsAreEncodable : List (Text × Value) → Bool
  | [] => true
  | (k, v) :: fs => !k.hasHalf && isEncodable v && fieldsAreEncodable fs

end

mutual

/-- How many values stand inside one another at most, the value itself counted. -/
def height : Value → Nat
  | list items => itemsHeight items + 1
  | object fields => fieldsHeight fields + 1
  | _ => 1

/-- The height of the highest item; zero without items. -/
def itemsHeight : List Value → Nat
  | [] => 0
  | v :: vs => max (height v) (itemsHeight vs)

/-- The height of the highest field; zero without fields. -/
def fieldsHeight : List (Text × Value) → Nat
  | [] => 0
  | (_, v) :: fs => max (height v) (fieldsHeight fs)

end

mutual

/-- The value with null in the place of every number that is not finite. -/
def finite : Value → Value
  | float .nan => null
  | float (.infinite _) => null
  | list items => list (finiteItems items)
  | object fields => object (finiteFields fields)
  | v => v

def finiteItems : List Value → List Value
  | [] => []
  | v :: vs => finite v :: finiteItems vs

def finiteFields : List (Text × Value) → List (Text × Value)
  | [] => []
  | (k, v) :: fs => (k, finite v) :: finiteFields fs

end

end CatalogSearch.Value
