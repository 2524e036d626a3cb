import CatalogSearch.Number.Shortest
import CatalogSearch.Text.Quoted
import CatalogSearch.Value

/-!
# Writing JSON

JSON text without blanks and in ASCII: code points outside the printable ASCII range are written by
their UTF-16 units in hexadecimal. Doubles have their shortest text; the three that are no numbers
of JSON have the names `NaN`, `Infinity` and `-Infinity`. Every value is written, however deep it
nests and however many digits its integers have: the limits that a runtime may set to writing are
left out, those to reading are in the reader.
-/

namespace CatalogSearch.Json

/-- The escape for one UTF-16 unit. -/
def unitEscape (n : Nat) : List Char := '\\' :: 'u' :: Text.hexDigits 4 n

/-- One character inside quotes. -/
def writeChar (c : Char) : List Char :=
  if c == '\x22' then ['\\', '\x22']
  else if c == '\\' then ['\\', '\\']
  else if c == '\n' then ['\\', 'n']
  else if c == '\r' then ['\\', 'r']
  else if c == '\t' then ['\\', 't']
  else if c == '\x0c' then ['\\', 'f']
  else if c == '\x08' then ['\\', 'b']
  else if 0x20 ≤ c.toNat ∧ c.toNat ≤ 0x7e then [c]
  else if c.toNat < 0x10000 then unitEscape c.toNat
  else
    let n := c.toNat - 0x10000
    unitEscape (0xd800 + n / 0x400) ++ unitEscape (0xdc00 + n % 0x400)

/-- One code point inside quotes. -/
def writePoint : CodePoint → List Char
  | .char c => writeChar c
  | .half offset => unitEscape (CodePoint.half offset).toNat

def writeText (t : Text) : String :=
  String.ofList ('\x22' :: t.points.flatMap writePoint ++ ['\x22'])

def writeFloat : Binary64 → String
  | .nan => "NaN"
  | .infinite negative => if negative then "-Infinity" else "Infinity"
  | x => x.toText

mutual

/-- The JSON text of a value. -/
def write : Value → String
  | .null => "null"
  | .bool b => if b then "true" else "false"
  | .int i => toString i
  | .float x => writeFloat x
  | .text t => writeText t
  | .list items => "[" ++ writeItems items ++ "]"
  | .object fields => "\x7b" ++ writeFields fields ++ "\x7d"

def writeItems : List Value → String
  | [] => ""
  | [v] => write v
  | v :: w :: rest => write v ++ "," ++ writeItems (w :: rest)

def writeFields : List (Text × Value) → String
  | [] => ""
  | [(k, v)] => writeText k ++ ":" ++ write v
  | (k, v) :: f :: rest => writeText k ++ ":" ++ write v ++ "," ++ writeFields (f :: rest)

end

end CatalogSearch.Json
