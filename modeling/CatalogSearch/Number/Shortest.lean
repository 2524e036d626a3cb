import CatalogSearch.Number.Binary64

/-!
# The shortest text of a double

The digits of a double's text are the fewest that read back as the same double, and of those the
nearest to it. They are found by trying one digit, two digits and so on, each time looking at the
two neighbours of the double on the grid of numbers with that many digits.

How the digits are laid out is `DecimalLayout`; this library writes every double in the one layout
`DecimalLayout.plain`.
-/

namespace CatalogSearch

structure Ratio where
  num : Nat
  den : Nat

namespace Ratio

/-- The number times `10 ^ e`. -/
def scale10 (x : Ratio) (e : Int) : Ratio :=
  if e < 0 then ⟨x.num, x.den * Nat.pow 10 e.natAbs⟩
  else ⟨x.num * Nat.pow 10 e.natAbs, x.den⟩

/-- The number `p` with `10 ^ (p - 1) ≤ x < 10 ^ p`. -/
def pointPosition (x : Ratio) : Int :=
  if x.den ≤ x.num then Binary64.decimalLength (x.num / x.den)
  else 1 - (Binary64.decimalLength ((x.den + x.num - 1) / x.num - 1) : Int)

end Ratio

namespace Binary64

/-- The decimals that round to one double: an interval around the double, with or without its
ends. All three numbers have the denominator `den`. -/
structure Rounding where
  lower : Nat
  value : Nat
  upper : Nat
  den : Nat
  closed : Bool

/-- The interval of the double with the given significand and shift. It reaches half way to the
next double on each side; below a power of two the doubles lie twice as close. -/
def rounding (significand shift : Nat) : Rounding :=
  let step := Nat.pow 2 shift
  let value := 4 * significand * step
  let gap := if significand = Nat.pow 2 52 ∧ 0 < shift then step else 2 * step
  ⟨value - gap, value, value + 2 * step, 4 * Place.unitsPerOne, significand % 2 == 0⟩

namespace Rounding

/-- Whether the decimal `n * 10 ^ e` rounds to the double. -/
def holds (r : Rounding) (n : Nat) (e : Int) : Bool :=
  let x := Ratio.scale10 ⟨n, 1⟩ e
  let at_ := x.num * r.den
  let low := r.lower * x.den
  let high := r.upper * x.den
  if r.closed then low ≤ at_ && at_ ≤ high else low < at_ && at_ < high

/-- The decimal with `count` digits that rounds to the double and is nearest to it, if there is
one: its digits, with the power of ten of the last of them. -/
def withDigits? (r : Rounding) (point : Int) (count : Nat) : Option (Nat × Int) :=
  let e := point - count
  let x := Ratio.scale10 ⟨r.value, r.den⟩ (-e)
  let n := x.num / x.den
  let rest := x.num % x.den
  match r.holds n e, r.holds (n + 1) e with
  | true, true =>
    if 2 * rest < x.den then some (n, e)
    else if x.den < 2 * rest then some (n + 1, e)
    else some (n + n % 2, e)
  | true, false => some (n, e)
  | false, true => some (n + 1, e)
  | false, false => none

end Rounding

/-- The digits of a positive double and the power of ten of the last of them: the first count from
1 to 17 for which some decimal reads back. Seventeen digits always do. -/
def shortestDigits (significand shift : Nat) : Nat × Int :=
  let r := rounding significand shift
  let point := Ratio.pointPosition ⟨r.value, r.den⟩
  ((List.range 17).findSome? fun k => r.withDigits? point (k + 1)).getD (0, 0)

end Binary64

/-- How the digits of a number are laid out. The point position is the place of the decimal point
counted from the front of the digits. -/
structure DecimalLayout where
  /-- The least and the greatest point position that is written without an exponent. -/
  leastPosition : Int
  greatestPosition : Int
  /-- What follows a whole number. -/
  wholeTail : String
  exponentDigits : Nat

namespace DecimalLayout

/-- Numbers from `0.0001` up to below `10 ^ 16` are positional, a whole number ends in `.0`, and an
exponent has a sign and at least two digits. -/
def plain : DecimalLayout := ⟨-3, 16, ".0", 2⟩

def exponentText (layout : DecimalLayout) (e : Int) : String :=
  let digits := Nat.toDigits 10 e.natAbs
  String.ofList ('e' :: (if e < 0 then '-' else '+') ::
    (List.replicate (layout.exponentDigits - digits.length) '0' ++ digits))

/-- Lays out the digits of a positive number; the last digit is not zero. -/
def render (layout : DecimalLayout) (digits : List Char) (position : Int) : String :=
  if layout.leastPosition ≤ position ∧ position ≤ layout.greatestPosition then
    if position ≤ 0 then
      "0." ++ String.ofList (List.replicate position.natAbs '0' ++ digits)
    else if digits.length ≤ position.natAbs then
      String.ofList (digits ++ List.replicate (position.natAbs - digits.length) '0') ++
        layout.wholeTail
    else
      String.ofList (digits.take position.natAbs ++ '.' :: digits.drop position.natAbs)
  else
    let mantissa :=
      match digits with
      | d :: (e :: rest) => d :: '.' :: e :: rest
      | short => short
    String.ofList mantissa ++ layout.exponentText (position - 1)

end DecimalLayout

namespace Binary64

/-- The digits of a positive double without zeros at the end, and its point position. -/
def decimalDigits (significand shift : Nat) : List Char × Int :=
  let (n, e) := shortestDigits significand shift
  let digits := Nat.toDigits 10 n
  ((digits.reverse.dropWhile (· == '0')).reverse, e + digits.length)

/-- The shortest text that reads back as the double. -/
def toText : Binary64 → String
  | .nan => "nan"
  | .infinite negative => if negative then "-inf" else "inf"
  | .finite negative significand shift =>
    let magnitude :=
      if significand = 0 then "0" ++ DecimalLayout.plain.wholeTail
      else
        let (digits, position) := decimalDigits significand shift
        DecimalLayout.plain.render digits position
    if negative then "-" ++ magnitude else magnitude

end Binary64

end CatalogSearch
