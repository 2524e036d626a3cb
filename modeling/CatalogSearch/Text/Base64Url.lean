/-!
# Base64 for addresses

Bytes as text over the 64 characters `A` to `Z`, `a` to `z`, `0` to `9`, `-` and `_`, four for three
bytes, without padding. Reading is lenient: the older signs `+` and `/` are accepted for `-` and
`_`, and every other byte outside the alphabet is passed over. The text is first padded by its
length, the passed-over bytes included, so such bytes can still make the padding come out wrong.
-/

namespace CatalogSearch.Text.Base64Url

/-- The character for a number below 64. -/
def symbol (n : Nat) : Char :=
  if n < 26 then Char.ofNat (n + 65)
  else if n < 52 then Char.ofNat (n + 71)
  else if n < 62 then Char.ofNat (n - 4)
  else if n = 62 then '-' else '_'

def encode : List UInt8 → List Char
  | a :: b :: c :: rest =>
    let n := a.toNat * 65536 + b.toNat * 256 + c.toNat
    symbol (n / 262144) :: symbol (n / 4096 % 64) :: symbol (n / 64 % 64) :: symbol (n % 64) ::
      encode rest
  | [a, b] =>
    let n := a.toNat * 1024 + b.toNat * 4
    [symbol (n / 4096), symbol (n / 64 % 64), symbol (n % 64)]
  | [a] => [symbol (a.toNat / 4), symbol (a.toNat * 16 % 64)]
  | [] => []

/-- The number that a byte of text stands for. -/
def value? (b : UInt8) : Option Nat :=
  let n := b.toNat
  if 65 ≤ n ∧ n ≤ 90 then some (n - 65)
  else if 97 ≤ n ∧ n ≤ 122 then some (n - 71)
  else if 48 ≤ n ∧ n ≤ 57 then some (n + 4)
  else if n = 45 ∨ n = 43 then some 62
  else if n = 95 ∨ n = 47 then some 63
  else none

/-- How many bytes of a text count as characters of the alphabet. -/
def characters (text : List UInt8) : Nat := text.countP fun b => (value? b).isSome

/-- Where reading stands: how many characters of a group of four have been read, the bits that they
leave over, and the padding signs in a row. -/
structure State where
  group : Nat
  left : Nat
  pads : Nat

/-- Reads on. Padding that completes a group ends the text, whatever follows. -/
def decodeFrom : State → List UInt8 → Option (List UInt8)
  | s, [] => if s.group = 0 then some [] else none
  | s, b :: bs =>
    if b = 61 then
      if 2 ≤ s.group then
        if 4 ≤ s.group + s.pads + 1 then some [] else decodeFrom { s with pads := s.pads + 1 } bs
      else decodeFrom s bs
    else
      match value? b with
      | none => decodeFrom s bs
      | some v =>
        match s.group with
        | 0 => decodeFrom ⟨1, v, 0⟩ bs
        | 1 => (decodeFrom ⟨2, v % 16, 0⟩ bs).map (UInt8.ofNat (s.left * 4 + v / 16) :: ·)
        | 2 => (decodeFrom ⟨3, v % 4, 0⟩ bs).map (UInt8.ofNat (s.left * 16 + v / 4) :: ·)
        | _ => (decodeFrom ⟨0, 0, 0⟩ bs).map (UInt8.ofNat (s.left * 64 + v) :: ·)

/-- The bytes that a text stands for, or nothing when a group of four is left open. -/
def decode (text : List UInt8) : Option (List UInt8) :=
  decodeFrom ⟨0, 0, 0⟩ (text ++ List.replicate ((4 - text.length % 4) % 4) 61)

end CatalogSearch.Text.Base64Url
