import CatalogSearch.Text.Integer
import CatalogSearch.Text.Quoted
import CatalogSearch.Value

/-!
# Values as integers

Counts, user ids and the times in a token are taken as integers from whatever value stands there: a
boolean counts as 0 or 1, a double loses its fraction, a text is read.
-/

namespace CatalogSearch

/-- Why a value cannot be taken as an integer. -/
inductive IntegerError where
  | malformed (text : Text)
  | tooManyDigits (count : Nat)
  | undefined
  | unbounded
  | wrongKind (kind : String)
  deriving DecidableEq, Repr

/-- The words for an error. A text that cannot be read is shown up to 200 characters. -/
def IntegerError.message : IntegerError → String
  | malformed t =>
    "invalid literal for int() with base 10: " ++ String.ofList (t.quoted.toList.take 200)
  | tooManyDigits n =>
    "Exceeds the limit (" ++ toString Text.digitLimit ++ " digits) for integer string conversion: " ++
      "value has " ++ toString n ++ " digits; use sys.set_int_max_str_digits() to increase the limit"
  | undefined => "cannot convert float NaN to integer"
  | unbounded => "cannot convert float infinity to integer"
  | wrongKind k =>
    "int() argument must be a string, a bytes-like object or a real number, not '" ++ k ++ "'"

/-- The integer that a value stands for. -/
def Value.toInteger : Value → Except IntegerError Int
  | .bool b => .ok (if b then 1 else 0)
  | .int i => .ok i
  | .float x =>
    match x.truncate? with
    | some i => .ok i
    | none => .error (if x = .nan then .undefined else .unbounded)
  | .text t =>
    match t.string?.map Text.readInteger with
    | some (.ok i) => .ok i
    | some (.error (.tooManyDigits n)) => .error (.tooManyDigits n)
    | _ => .error (.malformed t)
  | v => .error (.wrongKind v.kind)

end CatalogSearch
