/-!
# Doubles

Binary floating-point numbers of 64 bits, held by what they stand for and not by their bits: a finite
double is a sign, a significand and a shift, with the value `± significand * 2 ^ shift / 2 ^ 1074`.
Everything here is exact arithmetic on natural numbers. `ofRatio` is the only place that rounds: it
gives the double nearest to a quotient, a tie going to the even significand.

A finite double is kept in its standard form: the significand is below `2 ^ 53`, and at least
`2 ^ 52` unless the shift is 0.
-/

namespace CatalogSearch

/-- A double, positive and negative zero and one value that is not a number included. -/
inductive Binary64 where
  | finite (negative : Bool) (significand shift : Nat)
  | infinite (negative : Bool)
  | nan
  deriving DecidableEq, Repr

/-- A place on the extended number line, finite places counted in units of `2 ^ (-1074)`. -/
inductive Place where
  | below
  | point (units : Int)
  | above
  | nowhere
  deriving DecidableEq, Repr

namespace Place

/-- Units to the number 1. -/
def unitsPerOne : Nat := Nat.pow 2 1074

def ofInt (i : Int) : Place := .point (i * unitsPerOne)

/-- Equality of numbers; what is not a number equals nothing. -/
def same : Place → Place → Bool
  | .below, .below => true
  | .point a, .point b => a == b
  | .above, .above => true
  | _, _ => false

/-- The order of numbers; what is not a number is below and above nothing. -/
def less : Place → Place → Bool
  | .nowhere, _ => false
  | _, .nowhere => false
  | .below, .below => false
  | .below, _ => true
  | .point _, .below => false
  | .point a, .point b => a < b
  | .point _, .above => true
  | .above, _ => false

end Place

namespace Binary64

/-- The integer nearest to `n / d`, a tie going to the even neighbour. -/
def roundHalfEven (n d : Nat) : Nat :=
  let q := n / d
  let r := n % d
  if 2 * r < d then q else if d < 2 * r then q + 1 else q + q % 2

/-- The greatest shift of a finite double. -/
def maxShift : Nat := 2045

/-- The double with the given parts, or an infinity when the shift is out of range. -/
def pack (negative : Bool) (significand shift : Nat) : Binary64 :=
  if shift > maxShift then .infinite negative else .finite negative significand shift

/-- The double nearest to `n / d`, a tie going to the even significand. -/
def ofRatio (negative : Bool) (n d : Nat) : Binary64 :=
  let units := n * Place.unitsPerOne
  let shift := Nat.log2 (units / d) + 1 - 53
  let significand := roundHalfEven units (d * Nat.pow 2 shift)
  if significand = Nat.pow 2 53 then pack negative (Nat.pow 2 52) (shift + 1)
  else pack negative significand shift

/-- The number of decimal digits of a natural number; 0 has one. -/
def decimalLength (n : Nat) : Nat := (Nat.toDigits 10 n).length

/-- The double nearest to `digits * 10 ^ exponent`. Exponents far outside the range of doubles are
answered without computing the power. -/
def ofDecimal (negative : Bool) (digits : Nat) (exponent : Int) : Binary64 :=
  if digits = 0 then .finite negative 0 0
  else
    let top := exponent + decimalLength digits
    if top > 310 then .infinite negative
    else if top < -330 then .finite negative 0 0
    else if exponent < 0 then ofRatio negative digits (Nat.pow 10 exponent.natAbs)
    else ofRatio negative (digits * Nat.pow 10 exponent.natAbs) 1

def place : Binary64 → Place
  | .finite negative m p =>
    let units := m * Nat.pow 2 p
    .point (if negative then -(units : Int) else units)
  | .infinite negative => if negative then .below else .above
  | .nan => .nowhere

def isWhole (x : Binary64) : Bool :=
  match x.place with
  | .point units => units % Place.unitsPerOne == 0
  | _ => false

def truncate? (x : Binary64) : Option Int :=
  match x.place with
  | .point units => some (units.tdiv Place.unitsPerOne)
  | _ => none

/-- The least integer that is not below a finite double. -/
def ceil? (x : Binary64) : Option Int :=
  match x.place with
  | .point units => some (-((-units) / Place.unitsPerOne))
  | _ => none

end Binary64

end CatalogSearch
