import CatalogSearch.Text.Blank
import CatalogSearch.Text.DecimalDigit

/-!
# Integers in text

A written integer is an optional sign and decimal digits of any script, in which single underscores
may stand between digits; white space around it does not count. A text of more than `digitLimit`
digits is refused, so that no reader spends quadratic time on a numeral that a client chose.
-/

namespace CatalogSearch.Text

/-- The most digits that a written integer may have. -/
def digitLimit : Nat := 4300

/-- Why a text is no integer. -/
inductive NumeralError where
  | malformed
  | tooManyDigits (count : Nat)
  deriving DecidableEq, Repr

/-- The digits of a run in which single underscores stand between digits. -/
def groupedDigits? : List Char → Option (List Nat)
  | [] => none
  | [c] => (decimalDigit? c).map ([·])
  | c :: '_' :: rest => do
    let d ← decimalDigit? c
    return d :: (← groupedDigits? rest)
  | c :: rest => do
    let d ← decimalDigit? c
    return d :: (← groupedDigits? rest)

/-- Splits off a leading sign; `true` stands for minus. -/
def splitSign : List Char → Bool × List Char
  | '-' :: cs => (true, cs)
  | '+' :: cs => (false, cs)
  | cs => (false, cs)

def signed (negative : Bool) (n : Nat) : Int :=
  if negative then -(n : Int) else n

/-- Reads an integer. The digit limit is checked before what follows the digits. -/
def readInteger (s : String) : Except NumeralError Int := do
  let (negative, cs) := splitSign (stripChars isWhiteSpace s.toList)
  let inNumeral := fun c => (decimalDigit? c).isSome || c == '_'
  let some digits := groupedDigits? (cs.takeWhile inNumeral) | throw .malformed
  if digits.length > digitLimit then throw (.tooManyDigits digits.length)
  if (cs.dropWhile inNumeral).isEmpty then
    return signed negative (ofDigits digits)
  else
    throw .malformed

end CatalogSearch.Text
