import CatalogSearch.Text
import CatalogSearch.Text.Printable

/-!
# Quoted text

Messages show a text between quotes. The quotes are single, unless the text holds a single quote and
no double one. Inside, the backslash and the quote in use are escaped, line feed, carriage return
and tab have short escapes, and every other code point that is not shown as itself is written by its
number with two, four or eight hexadecimal digits. Half of a surrogate pair never shows as itself.
-/

namespace CatalogSearch.Text

/-- The low `width` hexadecimal digits of a number, in lower case. -/
def hexDigits (width n : Nat) : List Char :=
  let digits := Nat.toDigits 16 n
  List.replicate (width - digits.length) '0' ++ digits

/-- The quote in which a text is shown. -/
def quoteMark (t : Text) : Char :=
  if t.points.contains (.char '\x27') && !t.points.contains (.char '\x22') then '\x22' else '\x27'

/-- A number as an escape. -/
def escape (n : Nat) : List Char :=
  if n < 0x100 then '\\' :: 'x' :: hexDigits 2 n
  else if n < 0x10000 then '\\' :: 'u' :: hexDigits 4 n
  else '\\' :: 'U' :: hexDigits 8 n

/-- One code point inside quotes; `shows` tells which characters show as themselves. -/
def quotedPoint (shows : Char → Bool) (mark : Char) : CodePoint → List Char
  | .half offset => escape (CodePoint.half offset).toNat
  | .char c =>
    if c == mark || c == '\\' then ['\\', c]
    else if c == '\n' then ['\\', 'n']
    else if c == '\r' then ['\\', 'r']
    else if c == '\t' then ['\\', 't']
    else if shows c then [c]
    else escape c.toNat

/-- A text between quotes. -/
def quotedWith (shows : Char → Bool) (t : Text) : String :=
  let mark := quoteMark t
  String.ofList (mark :: t.points.flatMap (quotedPoint shows mark) ++ [mark])

/-- A text between quotes, with the printable characters shown as themselves. -/
def quoted (t : Text) : String := quotedWith isPrintable t

/-- A text between quotes in which only ASCII characters show as themselves. -/
def quotedAscii (t : Text) : String :=
  quotedWith (fun c => isPrintable c && c.toNat < 0x80) t

end CatalogSearch.Text
