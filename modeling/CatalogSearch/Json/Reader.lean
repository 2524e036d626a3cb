import CatalogSearch.Text.Integer
import CatalogSearch.Text.Utf16
import CatalogSearch.Value

/-!
# Reading JSON

A reader for JSON text and for a little more: `NaN`, `Infinity` and `-Infinity` are numbers, of a
name that comes twice the last value counts, and half of a surrogate pair may stand on its own.
Numbers without point and exponent are integers of any size up to the digit limit of written
integers; the others are doubles, an infinite one when they are too large. Arrays and objects may
nest up to a depth that is given.

A fault is reported with the number of code points that are left from its place on, which `readWith`
turns into a position from the front.
-/

namespace CatalogSearch.Json

/-- What is wrong with a text. -/
inductive Fault where
  | byteOrderMark
  | expectedValue
  | expectedName
  | expectedColon
  | expectedComma
  | controlCharacter
  | badEscape
  | badUnicodeEscape
  | unterminated
  | extraData
  deriving DecidableEq, Repr

/-- Why a text is not read: a fault at a place, an integer with too many digits, or an array or an
object that is too deep. -/
inductive ReadError where
  | malformed (fault : Fault) (position : Nat)
  | tooManyDigits (count : Nat)
  | tooDeep (inObject : Bool)
  deriving DecidableEq, Repr

def Fault.message : Fault → String
  | byteOrderMark => "Unexpected UTF-8 BOM (decode using utf-8-sig)"
  | expectedValue => "Expecting value"
  | expectedName => "Expecting property name enclosed in double quotes"
  | expectedColon => "Expecting ':' delimiter"
  | expectedComma => "Expecting ',' delimiter"
  | controlCharacter => "Invalid control character at"
  | badEscape => "Invalid \\escape"
  | badUnicodeEscape => "Invalid \\uXXXX escape"
  | unterminated => "Unterminated string starting at"
  | extraData => "Extra data"

/-- A number as written. -/
structure Numeral where
  negative : Bool
  whole : List Char
  fraction : List Char
  /-- The mark, the sign and the digits of the exponent. -/
  exponent : List Char

namespace Numeral

def digitsValue (cs : List Char) : Nat := Text.ofDigits (cs.filterMap Text.asciiDigit?)

def isWhole (n : Numeral) : Bool := n.fraction.isEmpty && n.exponent.isEmpty

def toValue (n : Numeral) : Except ReadError Value :=
  if n.isWhole then
    if n.whole.length > Text.digitLimit then .error (.tooManyDigits n.whole.length)
    else .ok (.int (Text.signed n.negative (digitsValue n.whole)))
  else
    let (down, exponent) := Text.splitSign (n.exponent.drop 1)
    let e := Text.signed down (digitsValue exponent) - n.fraction.length
    .ok (.float (.ofDecimal n.negative (digitsValue (n.whole ++ n.fraction)) e))

end Numeral

def isSpace (p : CodePoint) : Bool :=
  p == .char ' ' || p == .char '\t' || p == .char '\n' || p == .char '\r'

def skipSpaces (ps : List CodePoint) : List CodePoint := ps.dropWhile isSpace

/-- Refuses the text at the place where `rest` begins. -/
def refuse {α : Type} (fault : Fault) (rest : List CodePoint) : Except ReadError α :=
  .error (.malformed fault rest.length)

def hexDigit? (p : CodePoint) : Option Nat := do
  let c ← p.char?
  if '0' ≤ c ∧ c ≤ '9' then some (c.toNat - 48)
  else if 'a' ≤ c ∧ c ≤ 'f' then some (c.toNat - 87)
  else if 'A' ≤ c ∧ c ≤ 'F' then some (c.toNat - 55)
  else none

/-- The UTF-16 unit written by four hexadecimal digits. -/
def unit? : List CodePoint → Option Nat
  | [a, b, c, d] => do
    return (((← hexDigit? a) * 16 + (← hexDigit? b)) * 16 + (← hexDigit? c)) * 16 + (← hexDigit? d)
  | _ => none

/-- The character for a one-letter escape. -/
def shortEscape? (p : CodePoint) : Option Char := do
  let c ← p.char?
  if c == '\x22' || c == '\\' || c == '/' then some c
  else if c == 'b' then some '\x08'
  else if c == 'f' then some '\x0c'
  else if c == 'n' then some '\n'
  else if c == 'r' then some '\r'
  else if c == 't' then some '\t'
  else none

/-- Reads an escape by units, behind its `u`; `mark` is the text from that `u` on. Gives the code
point and how many code points of `ps` it takes. A second unit is looked for only where the text has
something behind it. -/
def unicodeEscape (mark ps : List CodePoint) : Except ReadError (CodePoint × Nat) :=
  if ps.length < 5 then refuse .badUnicodeEscape mark
  else
    match unit? (ps.take 4) with
    | none => refuse .badUnicodeEscape mark
    | some high =>
      match ps.drop 4 with
      | .char '\\' :: .char 'u' :: second =>
        if Utf16.isHighHalf high && second.length ≥ 5 then
          match unit? (second.take 4) with
          | none => refuse .badUnicodeEscape (.char 'u' :: second)
          | some low =>
            if Utf16.isLowHalf low then .ok (.char (Utf16.pair high low), 10)
            else .ok (.ofNat high, 4)
        else .ok (.ofNat high, 4)
      | _ => .ok (.ofNat high, 4)

/-- Reads the rest of a text up to its closing quote; `skip` code points belong to an escape that is
already read. `start` is the text from the opening quote on. -/
def textBody (start : List CodePoint) :
    Nat → List CodePoint → Except ReadError (List CodePoint × List CodePoint)
  | _, [] => refuse .unterminated start
  | skip + 1, _ :: ps => textBody start skip ps
  | 0, .char '\x22' :: ps => .ok ([], ps)
  | 0, [.char '\\'] => refuse .unterminated start
  | 0, .char '\\' :: .char 'u' :: ps => do
    let (p, taken) ← unicodeEscape (.char 'u' :: ps) ps
    let (more, rest) ← textBody start taken ps
    return (p :: more, rest)
  | 0, .char '\\' :: e :: ps =>
    match shortEscape? e with
    | none => refuse .badEscape (.char '\\' :: e :: ps)
    | some c => do
      let (more, rest) ← textBody start 0 ps
      return (.char c :: more, rest)
  | 0, p :: ps =>
    if p.toNat ≤ 0x1f then refuse .controlCharacter (p :: ps)
    else do
      let (more, rest) ← textBody start 0 ps
      return (p :: more, rest)

def textToken (ps : List CodePoint) : Except ReadError (Text × List CodePoint) := do
  let (content, rest) ← textBody ps 0 (ps.drop 1)
  return (⟨content⟩, rest)

/-- Splits off the ASCII digits at the front. -/
def digits : List CodePoint → List Char × List CodePoint
  | .char c :: ps =>
    if (Text.asciiDigit? c).isSome then
      let (ds, rest) := digits ps
      (c :: ds, rest)
    else ([], .char c :: ps)
  | ps => ([], ps)

/-- Splits off a fraction: a point with a digit behind it. -/
def fraction : List CodePoint → List Char × List CodePoint
  | .char '.' :: ps => if (digits ps).1.isEmpty then ([], .char '.' :: ps) else digits ps
  | ps => ([], ps)

/-- Splits off an exponent: its mark, an optional sign and at least one digit. -/
def exponent : List CodePoint → List Char × List CodePoint
  | .char mark :: ps =>
    if mark == 'e' || mark == 'E' then
      let (sign, rest) := match ps with
        | .char '-' :: rest => (['-'], rest)
        | .char '+' :: rest => (['+'], rest)
        | rest => ([], rest)
      let (ds, rest) := digits rest
      if ds.isEmpty then ([], .char mark :: ps) else (mark :: sign ++ ds, rest)
    else ([], .char mark :: ps)
  | ps => ([], ps)

/-- The whole part of a number: a zero, or digits that do not begin with one. -/
def wholePart : List CodePoint → List Char × List CodePoint
  | .char '0' :: ps => (['0'], ps)
  | ps => digits ps

def number (ps : List CodePoint) : Except ReadError (Numeral × List CodePoint) :=
  let (negative, unsigned) := match ps with
    | .char '-' :: rest => (true, rest)
    | rest => (false, rest)
  let (whole, rest) := wholePart unsigned
  if whole.isEmpty then refuse .expectedValue ps
  else
    let (fraction, rest) := fraction rest
    let (exponent, rest) := exponent rest
    .ok (⟨negative, whole, fraction, exponent⟩, rest)

def words : List (Text × Value) :=
  [("null", .null), ("true", .bool true), ("false", .bool false), ("NaN", .float .nan),
    ("Infinity", .float (.infinite false)), ("-Infinity", .float (.infinite true))]

def word? (ps : List CodePoint) : Option (Value × List CodePoint) :=
  words.findSome? fun (w, v) =>
    if w.points.isPrefixOf ps then some (v, ps.drop w.points.length) else none

mutual

/-- Reads a value, given what numbers become and how deep arrays and objects may nest. -/
def value (numeral : Numeral → Except ReadError Value) :
    Nat → Nat → List CodePoint → Except ReadError (Value × List CodePoint)
  | 0, _, ps => refuse .expectedValue ps
  | _ + 1, _, [] => refuse .expectedValue []
  | fuel + 1, depth, p :: ps =>
    if p == .char '\x22' then do
      let (t, rest) ← textToken (p :: ps)
      return (.text t, rest)
    else if p == .char '[' then
      match depth with
      | 0 => .error (.tooDeep false)
      | depth + 1 =>
        match skipSpaces ps with
        | .char ']' :: rest => .ok (.list [], rest)
        | inside => do
          let (vs, rest) ← items numeral fuel depth inside
          return (.list vs, rest)
    else if p == .char '\x7b' then
      match depth with
      | 0 => .error (.tooDeep true)
      | depth + 1 =>
        match skipSpaces ps with
        | .char '\x7d' :: rest => .ok (.object [], rest)
        | inside => do
          let (fs, rest) ← fields numeral fuel depth [] inside
          return (.object fs, rest)
    else
      match word? (p :: ps) with
      | some found => .ok found
      | none => do
        let (n, rest) ← number (p :: ps)
        return (← numeral n, rest)

/-- Reads the items of an array and its closing bracket. -/
def items (numeral : Numeral → Except ReadError Value) :
    Nat → Nat → List CodePoint → Except ReadError (List Value × List CodePoint)
  | 0, _, ps => refuse .expectedValue ps
  | fuel + 1, depth, ps => do
    let (v, rest) ← value numeral fuel depth ps
    match skipSpaces rest with
    | .char ']' :: rest => return ([v], rest)
    | .char ',' :: rest =>
      let (vs, rest) ← items numeral fuel depth (skipSpaces rest)
      return (v :: vs, rest)
    | rest => refuse .expectedComma rest

/-- Reads the fields of an object and its closing brace; `read` are the fields before. -/
def fields (numeral : Numeral → Except ReadError Value) :
    Nat → Nat → Row → List CodePoint → Except ReadError (Row × List CodePoint)
  | 0, _, _, ps => refuse .expectedName ps
  | fuel + 1, depth, read, ps =>
    if ps.head? != some (.char '\x22') then refuse .expectedName ps
    else do
      let (name, rest) ← textToken ps
      match skipSpaces rest with
      | .char ':' :: rest =>
        let (v, rest) ← value numeral fuel depth (skipSpaces rest)
        let read := read.set name v
        match skipSpaces rest with
        | .char '\x7d' :: rest => return (read, rest)
        | .char ',' :: rest => fields numeral fuel depth read (skipSpaces rest)
        | rest => refuse .expectedComma rest
      | rest => refuse .expectedColon rest

end

/-- Turns what is left behind a fault into its position. -/
def ReadError.fromFront (length : Nat) : ReadError → ReadError
  | .malformed fault left => .malformed fault (length - left)
  | e => e

/-- Reads a whole text, given what numbers become and how deep arrays and objects may nest. A text
of `n` code points nests less than `2 * n` deep in the mutual recursion. -/
def readWith (numeral : Numeral → Except ReadError Value) (depth : Nat) (t : Text) :
    Except ReadError Value :=
  if t.points.head? == some (.char '\ufeff') then .error (.malformed .byteOrderMark 0)
  else
    (do
      let (v, rest) ← value numeral (2 * t.points.length + 2) depth (skipSpaces t.points)
      match skipSpaces rest with
      | [] => return v
      | rest => refuse .extraData rest).mapError (ReadError.fromFront t.points.length)

/-- How deep the arrays and objects of a text may nest. -/
def depthLimit : Nat := 985

/-- The value that a text writes. -/
def read (t : Text) : Except ReadError Value := readWith Numeral.toValue depthLimit t

/-- The words for an array or an object that is too deep. -/
def tooDeepMessage (inObject : Bool) : String :=
  "maximum recursion depth exceeded while decoding a JSON " ++
    (if inObject then "object" else "array") ++ " from a unicode string"

/-- The words for an error: a fault has its line, its column and its position. -/
def ReadError.message (t : Text) : ReadError → String
  | .malformed fault position =>
    let before := t.points.take position
    let line := before.count (.char '\n') + 1
    let column := (before.reverse.takeWhile (· != .char '\n')).length + 1
    fault.message ++ ": line " ++ toString line ++ " column " ++ toString column ++ " (char " ++
      toString position ++ ")"
  | .tooManyDigits n =>
    "Exceeds the limit (" ++ toString Text.digitLimit ++ " digits) for integer string conversion: " ++
      "value has " ++ toString n ++ " digits; use sys.set_int_max_str_digits() to increase the limit"
  | .tooDeep inObject => tooDeepMessage inObject

end CatalogSearch.Json
