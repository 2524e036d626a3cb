import CatalogSearch.Text

/-!
# UTF-16

UTF-16 writes a code point above U+FFFF as a pair of units, a high half and a low half. A half
without its partner is a code point of its own. Units stand in two bytes each, in one of two orders.
UTF-32, where every code point has four bytes, is read here too.
-/

namespace CatalogSearch

namespace Utf16

/-- The first half of a pair. -/
def isHighHalf (n : Nat) : Bool := 0xd800 ≤ n && n ≤ 0xdbff

/-- The second half of a pair. -/
def isLowHalf (n : Nat) : Bool := 0xdc00 ≤ n && n ≤ 0xdfff

/-- The character of a pair. -/
def pair (high low : Nat) : Char :=
  Char.ofNat (0x10000 + (high - 0xd800) * 0x400 + (low - 0xdc00))

/-- The code points of some units. -/
def ofUnits : List Nat → List CodePoint
  | high :: low :: rest =>
    if isHighHalf high && isLowHalf low then .char (pair high low) :: ofUnits rest
    else .ofNat high :: ofUnits (low :: rest)
  | [unit] => [.ofNat unit]
  | [] => []

/-- The units in some bytes, the low byte first or the high byte first; nothing when a byte is left
over. -/
def units? (lowFirst : Bool) : List UInt8 → Option (List Nat)
  | a :: b :: rest => do
    let unit := if lowFirst then b.toNat * 256 + a.toNat else a.toNat * 256 + b.toNat
    return unit :: (← units? lowFirst rest)
  | [_] => none
  | [] => some []

def decode? (lowFirst : Bool) (bytes : List UInt8) : Option Text :=
  (units? lowFirst bytes).map fun units => ⟨ofUnits units⟩

end Utf16

namespace Utf32

/-- The text in some bytes, four to a code point, if none of them is too large and none is left
over. -/
def points? (lowFirst : Bool) : List UInt8 → Option (List CodePoint)
  | a :: b :: c :: d :: rest => do
    let n := if lowFirst then ((d.toNat * 256 + c.toNat) * 256 + b.toNat) * 256 + a.toNat
      else ((a.toNat * 256 + b.toNat) * 256 + c.toNat) * 256 + d.toNat
    if n ≤ 0x10ffff then return .ofNat n :: (← points? lowFirst rest) else none
  | [] => some []
  | _ => none

def decode? (lowFirst : Bool) (bytes : List UInt8) : Option Text :=
  (points? lowFirst bytes).map Text.mk

end Utf32

end CatalogSearch
