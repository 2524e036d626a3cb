import CatalogSearch.Text.Quoted

/-!
# UTF-8

Reading bytes as UTF-8 text, one byte at a time. A sequence that is still open is kept as `Pending`:
how many bytes it needs, and between which bounds the next one must lie. The bounds of the second
byte keep out overlong forms, surrogates and numbers above the last code point.

A refusal names the bytes at fault: the first byte of the sequence up to, but not including, the
byte that cannot follow.
-/

namespace CatalogSearch.Text

/-- Why bytes are no UTF-8 text. -/
inductive Utf8Fault where
  | invalidStart
  | invalidContinuation
  | unexpectedEnd
  deriving DecidableEq, Repr

/-- A refusal: the fault, the first byte at fault, and the positions from `start` to below `stop`. -/
structure Utf8Error where
  fault : Utf8Fault
  lead : UInt8
  start : Nat
  stop : Nat
  deriving DecidableEq, Repr

def Utf8Fault.message : Utf8Fault → String
  | .invalidStart => "invalid start byte"
  | .invalidContinuation => "invalid continuation byte"
  | .unexpectedEnd => "unexpected end of data"

def Utf8Error.message (e : Utf8Error) : String :=
  let bytes :=
    if e.stop = e.start + 1 then
      "byte 0x" ++ String.ofList (hexDigits 2 e.lead.toNat) ++ " in position " ++ toString e.start
    else "bytes in position " ++ toString e.start ++ "-" ++ toString (e.stop - 1)
  "'utf-8' codec can't decode " ++ bytes ++ ": " ++ e.fault.message

namespace Utf8

/-- A sequence of which some bytes have been read. -/
structure Pending where
  lead : UInt8
  start : Nat
  /-- How many bytes are still to come. -/
  needed : Nat
  low : UInt8
  high : UInt8
  /-- The bits of the code point read so far. -/
  bits : Nat

/-- What the first byte of a longer sequence asks for. -/
def opens (pos : Nat) (b : UInt8) : Option Pending :=
  let n := b.toNat
  if 0xc2 ≤ n ∧ n ≤ 0xdf then some ⟨b, pos, 1, 0x80, 0xbf, n - 0xc0⟩
  else if 0xe0 ≤ n ∧ n ≤ 0xef then
    some ⟨b, pos, 2, if n = 0xe0 then 0xa0 else 0x80, if n = 0xed then 0x9f else 0xbf, n - 0xe0⟩
  else if 0xf0 ≤ n ∧ n ≤ 0xf4 then
    some ⟨b, pos, 3, if n = 0xf0 then 0x90 else 0x80, if n = 0xf4 then 0x8f else 0xbf, n - 0xf0⟩
  else none

/-- Reads on from position `pos`, with or without an open sequence. -/
def decodeFrom : Option Pending → Nat → List UInt8 → Except Utf8Error (List Char)
  | none, _, [] => .ok []
  | some p, pos, [] => .error ⟨.unexpectedEnd, p.lead, p.start, pos⟩
  | none, pos, b :: bs =>
    if b < 0x80 then (decodeFrom none (pos + 1) bs).map (Char.ofNat b.toNat :: ·)
    else
      match opens pos b with
      | none => .error ⟨.invalidStart, b, pos, pos + 1⟩
      | some p => decodeFrom (some p) (pos + 1) bs
  | some p, pos, b :: bs =>
    if p.low ≤ b ∧ b ≤ p.high then
      let bits := p.bits * 64 + (b.toNat - 0x80)
      if p.needed = 1 then (decodeFrom none (pos + 1) bs).map (Char.ofNat bits :: ·)
      else
        decodeFrom
          (some { p with needed := p.needed - 1, low := 0x80, high := 0xbf, bits := bits })
          (pos + 1) bs
    else .error ⟨.invalidContinuation, p.lead, p.start, pos⟩

/-- The string that the bytes encode. -/
def decode (bytes : List UInt8) : Except Utf8Error String :=
  (decodeFrom none 0 bytes).map String.ofList

def encode (s : String) : List UInt8 := s.toUTF8.toList

end Utf8

end CatalogSearch.Text
