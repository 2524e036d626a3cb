import CatalogSearch.Sort
import CatalogSearch.Value

/-!
# Equality and order of values

Numbers are equal when they stand at the same place of the number line, whatever their kind, so
`true`, `1` and `1.0` are one key. What is not a number equals nothing, itself included. Objects are
equal when they hold equal values under the same names, in any order.

Only like values have an order: numbers with numbers, texts with texts, arrays with arrays. Sorting
values of unlike kinds fails, and the pair that the failure names is the first one that is compared.
-/

namespace CatalogSearch

/-- Two values without an order between them, by their kinds, in the order of the comparison. -/
structure Unlike where
  left : String
  right : String
  deriving DecidableEq, Repr

def Unlike.message (u : Unlike) : String :=
  "'<' not supported between instances of '" ++ u.left ++ "' and '" ++ u.right ++ "'"

namespace Value

/-- The place of a number. -/
def place? : Value → Option Place
  | bool b => some (.ofInt (if b then 1 else 0))
  | int i => some (.ofInt i)
  | float x => some x.place
  | _ => none

mutual

/-- Equality of values. -/
def same : Value → Value → Bool
  | null, null => true
  | text s, text t => s == t
  | list xs, list ys => sameItems xs ys
  | object fs, object gs => fs.length == gs.length && sameFields fs gs
  | v, w =>
    match v.place?, w.place? with
    | some p, some q => p.same q
    | _, _ => false

def sameItems : List Value → List Value → Bool
  | [], [] => true
  | v :: vs, w :: ws => same v w && sameItems vs ws
  | _, _ => false

/-- Whether each field has an equal one of its name among others. -/
def sameFields : List (Text × Value) → List (Text × Value) → Bool
  | [], _ => true
  | (k, v) :: fs, gs =>
    (match gs.lookup k with
      | some w => same v w
      | none => false) && sameFields fs gs

end

/-- Whether the value can be a key: arrays and objects cannot. -/
def isKey (v : Value) : Bool := v.isScalar

mutual

/-- Whether a value is below another. -/
def less : Value → Value → Except Unlike Bool
  | text s, text t => .ok (s.less t)
  | list xs, list ys => lessItems xs ys
  | v, w =>
    match v.place?, w.place? with
    | some p, some q => .ok (p.less q)
    | _, _ => .error ⟨v.kind, w.kind⟩

/-- The order of the first items that differ; a list is above its beginnings. -/
def lessItems : List Value → List Value → Except Unlike Bool
  | _, [] => .ok false
  | [], _ :: _ => .ok true
  | v :: vs, w :: ws => if same v w then lessItems vs ws else less v w

end

/-- Whether a value is below another, with `false` where there is no order. -/
def isBelow (v w : Value) : Bool :=
  match less v w with
  | .ok b => b
  | .error _ => false

/-- Whether the value is a number, or infinite. -/
def isNumber (v : Value) : Bool := v.place?.any (· != .nowhere)

def isText : Value → Bool
  | text _ => true
  | _ => false

/-- The values in ascending order, equal ones in the order given. Numbers have an order, and texts
have one. Of other values it is seen only from comparisons whether they do. -/
def sorted (vs : List Value) : Except Unlike (List Value) :=
  if vs.all isNumber || vs.all isText then .ok (vs.mergeSort fun v w => !isBelow w v)
  else Sort.adaptive less vs

end Value

end CatalogSearch
