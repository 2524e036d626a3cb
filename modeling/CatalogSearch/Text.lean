/-!
# Texts

A text is a sequence of code points. JSON can write half of a surrogate pair on its own, and such a
half is a code point but no character, so a text can hold what a `String` cannot. A text without
halves is a string, and every string is such a text.
-/

namespace CatalogSearch

/-- A code point: a character, or half of a surrogate pair, by its distance from U+D800. -/
inductive CodePoint where
  | char (c : Char)
  | half (offset : Fin 2048)
  deriving DecidableEq, Repr

namespace CodePoint

/-- The number of a code point. -/
def toNat : CodePoint → Nat
  | char c => c.toNat
  | half offset => 0xd800 + offset.val

/-- The code point of a number; U+0000 above the last code point. -/
def ofNat (n : Nat) : CodePoint :=
  if h : 0xd800 ≤ n ∧ n ≤ 0xdfff then half ⟨n - 0xd800, by omega⟩ else char (Char.ofNat n)

/-- The character that a code point is. -/
def char? : CodePoint → Option Char
  | char c => some c
  | half _ => none

def isHalf (p : CodePoint) : Bool := p.char?.isNone

end CodePoint

/-- A sequence of code points. -/
structure Text where
  points : List CodePoint
  deriving DecidableEq, Repr, Inhabited

namespace Text

def ofString (s : String) : Text := ⟨s.toList.map .char⟩

instance : Coe String Text := ⟨ofString⟩

instance : Append Text := ⟨fun s t => ⟨s.points ++ t.points⟩⟩

/-- The string that a text is, if it holds no half of a pair. -/
def string? (t : Text) : Option String := (t.points.mapM CodePoint.char?).map String.ofList

def isEmpty (t : Text) : Bool := t.points.isEmpty

def hasHalf (t : Text) : Bool := t.points.any CodePoint.isHalf

/-- The order of texts, by the numbers of their code points. -/
def less (s t : Text) : Bool :=
  decide (s.points.map CodePoint.toNat < t.points.map CodePoint.toNat)

theorem string?_ofString (s : String) : (ofString s).string? = some s := by
  have h : ∀ cs : List Char, (cs.map CodePoint.char).mapM CodePoint.char? = some cs := by
    intro cs
    induction cs with
    | nil => rfl
    | cons c cs ih => simp [CodePoint.char?, ih]
  simp [string?, ofString, h]

end Text

end CatalogSearch
