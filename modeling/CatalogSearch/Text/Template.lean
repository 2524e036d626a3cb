import CatalogSearch.Text.DecimalDigit
import CatalogSearch.Text.Quoted

/-!
# Templates

Join clauses and column lists are written once for any table alias: `{alias}` in the text stands for
the alias. A doubled brace is a brace. A placeholder may ask for the alias in quotes (`!r`), and
after a colon for a fill character, an alignment, a width and a greatest length.

A template is filled from left to right, and the first thing wrong with it is the error. Numbers in it
are read digit by digit, and one that grows beyond 63 bits is an error whatever stands behind it.
-/

namespace CatalogSearch

/-- What a layout may not ask of a text. -/
inductive LayoutFault where
  | oversizedNumber
  | sign
  | space
  | negativeZero
  | alternate
  | signAwareAlignment
  | grouping (separator code : Char)
  | bothGroupings
  | missingPrecision
  | unknownCode (code : Char)
  | invalid (layout : String)
  deriving DecidableEq, Repr

/-- Why a template cannot be filled. -/
inductive TemplateError where
  | strayClose
  | strayOpen
  | missingClose
  | openInName
  | openLayout
  | missingConversion
  | missingColon
  | unknownConversion (conversion : Char)
  | noPositional (index : Nat)
  | unknownName (name : String)
  | emptyAttribute
  | unknownAttribute (name : String)
  | badIndex
  | indexOutOfRange
  | strayAfterIndex
  | tooDeep
  | oversizedNumber
  /-- A width that no memory can hold. -/
  | tooWide
  | layout (fault : LayoutFault)
  deriving DecidableEq, Repr

namespace LayoutFault

def oversizedNumberMessage : String := "Too many decimal digits in format string"

/-- A character in a message; a blank, a control character and one from `limit` on are shown by their
numbers. -/
def showChar (limit : Nat) (c : Char) : String :=
  if 32 < c.toNat ∧ c.toNat < limit then c.toString
  else "\\x" ++ String.ofList (Nat.toDigits 16 c.toNat)

def message : LayoutFault → String
  | oversizedNumber => oversizedNumberMessage
  | sign => "Sign not allowed in string format specifier"
  | space => "Space not allowed in string format specifier"
  | negativeZero => "Negative zero coercion (z) not allowed in string format specifier"
  | alternate => "Alternate form (#) not allowed in string format specifier"
  | signAwareAlignment => "'=' alignment not allowed in string format specifier"
  | grouping c code => "Cannot specify '" ++ c.toString ++ "' with '" ++ showChar 128 code ++ "'."
  | bothGroupings => "Cannot specify both ',' and '_'."
  | missingPrecision => "Format specifier missing precision"
  | unknownCode c => "Unknown format code '" ++ showChar 128 c ++ "' for object of type 'str'"
  | invalid layout => "Invalid format specifier '" ++ layout ++ "' for object of type 'str'"

end LayoutFault

def TemplateError.message : TemplateError → String
  | strayClose => "Single '\x7d' encountered in format string"
  | strayOpen => "Single '\x7b' encountered in format string"
  | missingClose => "expected '\x7d' before end of string"
  | openInName => "unexpected '\x7b' in field name"
  | openLayout => "unmatched '\x7b' in format spec"
  | missingConversion => "end of string while looking for conversion specifier"
  | missingColon => "expected ':' after conversion specifier"
  | unknownConversion c => "Unknown conversion specifier " ++ LayoutFault.showChar 127 c
  | noPositional i => "Replacement index " ++ toString i ++ " out of range for positional args tuple"
  | unknownName name => Text.quoted name
  | emptyAttribute => "Empty attribute in format string"
  | unknownAttribute name => "'str' object has no attribute " ++ Text.quoted name
  | badIndex => "string indices must be integers, not 'str'"
  | indexOutOfRange => "string index out of range"
  | strayAfterIndex => "Only '.' or '[' may follow ']' in format field specifier"
  | tooDeep => "Max string recursion exceeded"
  | oversizedNumber => LayoutFault.oversizedNumberMessage
  | tooWide => ""
  | layout fault => fault.message

def templateNumberLimit : Nat := Nat.pow 2 63 - 1

/-- The number `n` with some digits behind it, and what stands behind the digits; nothing for a number
that grows too large. -/
def readTemplateNumber : Nat → List Char → Option (Nat × List Char)
  | n, [] => some (n, [])
  | n, c :: cs =>
    match Text.decimalDigit? c with
    | none => some (n, c :: cs)
    | some d =>
      if 10 * n + d ≤ templateNumberLimit then readTemplateNumber (10 * n + d) cs else none

/-- How a text is laid out in a placeholder. -/
structure TextLayout where
  fill : Char
  alignment : Char
  width : Nat
  /-- The greatest length, if there is one. -/
  precision : Option Nat

namespace TextLayout

/-- The alignments: left, right, centred and after a sign. -/
def alignments : List Char := ['<', '>', '^', '=']

def number? (cs : List Char) : Except LayoutFault (Option Nat × List Char) :=
  match readTemplateNumber 0 cs with
  | none => .error .oversizedNumber
  | some (n, rest) => .ok (if rest.length < cs.length then some n else none, rest)

/-- The fill character, the alignment and the rest of a layout. -/
def readAlignment : List Char → Option Char × Option Char × List Char
  | f :: a :: rest =>
    if alignments.contains a then (some f, some a, rest)
    else if alignments.contains f then (none, some f, a :: rest)
    else (none, none, f :: a :: rest)
  | [a] => if alignments.contains a then (none, some a, []) else (none, none, [a])
  | [] => (none, none, [])

/-- Takes a character off the front if it satisfies a test. -/
def takeIf (p : Char → Bool) : List Char → Option Char × List Char
  | c :: rest => if p c then (some c, rest) else (none, c :: rest)
  | [] => (none, [])

/-- Whether a code for numbers allows a separator between groups of digits. No code for texts does. -/
def groups (separator code : Char) : Bool :=
  "defgEFG%\x00".toList.contains code || (separator == '_' && "boxX".toList.contains code)

def read (whole : List Char) : Except LayoutFault TextLayout := do
  let (fill, alignment, cs) := readAlignment whole
  let (signMark, cs) := takeIf (fun c => c == '+' || c == '-' || c == ' ') cs
  let (negativeZeroMark, cs) := takeIf (· == 'z') cs
  let (alternateMark, cs) := takeIf (· == '#') cs
  let (zero, cs) := if fill.isNone then takeIf (· == '0') cs else (none, cs)
  let (width, cs) ← number? cs
  let (comma, cs) := takeIf (· == ',') cs
  let (underscore, cs) := takeIf (· == '_') cs
  if comma.isSome && underscore.isSome then throw .bothGroupings
  if underscore.isSome && cs.head? == some ',' then throw .bothGroupings
  let (point, cs) := takeIf (· == '.') cs
  let (precision, cs) ← if point.isSome then number? cs else pure (none, cs)
  if point.isSome && precision.isNone then throw .missingPrecision
  if cs.length > 1 then throw (.invalid (String.ofList whole))
  let code := cs.headD 's'
  if let some separator := comma <|> underscore then
    if !(groups separator code) then throw (.grouping separator code)
  if code != 's' then throw (.unknownCode code)
  if let some mark := signMark then throw (if mark == ' ' then .space else .sign)
  if negativeZeroMark.isSome then throw .negativeZero
  if alternateMark.isSome then throw .alternate
  if alignment == some '=' then throw .signAwareAlignment
  return ⟨(fill <|> zero).getD ' ', alignment.getD '<', width.getD 0, precision⟩

def apply (layout : TextLayout) (text : List Char) : List Char :=
  let cut := match layout.precision with
    | some n => text.take n
    | none => text
  let space := layout.width - cut.length
  let before :=
    if layout.alignment = '>' then space else if layout.alignment = '^' then space / 2 else 0
  List.replicate before layout.fill ++ cut ++ List.replicate (space - before) layout.fill

end TextLayout

namespace Template

/-- A placeholder as written: the name, the conversion and the layout. -/
structure Field where
  name : List Char
  conversion : Option Char
  layout : List Char

/-- Splits a name at the first character of a class; inside square brackets nothing counts. -/
def splitName (stops : Char → Bool) : Bool → List Char → List Char × List Char
  | _, [] => ([], [])
  | true, c :: cs =>
    let (name, rest) := splitName stops (c != ']') cs
    (c :: name, rest)
  | false, c :: cs =>
    if stops c then ([], c :: cs)
    else
      let (name, rest) := splitName stops (c == '[') cs
      (c :: name, rest)

/-- Splits a layout at the brace that closes the placeholder. -/
def splitLayout : Nat → List Char → Option (List Char × List Char)
  | _, [] => none
  | depth, '\x7b' :: cs => (splitLayout (depth + 1) cs).map fun p => ('\x7b' :: p.1, p.2)
  | 0, '\x7d' :: cs => some ([], cs)
  | depth + 1, '\x7d' :: cs => (splitLayout depth cs).map fun p => ('\x7d' :: p.1, p.2)
  | depth, c :: cs => (splitLayout depth cs).map fun p => (c :: p.1, p.2)

/-- Reads a placeholder behind its opening brace. -/
def readField (cs : List Char) : Except TemplateError (Field × List Char) :=
  let withLayout := fun name conversion rest =>
    match splitLayout 0 rest with
    | some (layout, rest) => .ok (⟨name, conversion, layout⟩, rest)
    | none => .error .openLayout
  let stops := fun c => c == '\x7b' || c == '\x7d' || c == ':' || c == '!'
  match splitName stops false cs with
  | (_, '\x7b' :: _) => .error .openInName
  | (name, '\x7d' :: rest) => .ok (⟨name, none, []⟩, rest)
  | (name, ':' :: rest) => withLayout name none rest
  | (name, '!' :: conversion :: '\x7d' :: rest) => .ok (⟨name, some conversion, []⟩, rest)
  | (name, '!' :: conversion :: ':' :: rest) => withLayout name (some conversion) rest
  | (_, '!' :: _ :: _ :: _) => .error .missingColon
  | (_, '!' :: _ :: []) => .error .openLayout
  | (_, '!' :: []) => .error .missingConversion
  | _ => .error .missingClose

/-- The number that a text of digits writes; nothing for any other text. -/
def number? (cs : List Char) : Except TemplateError (Option Nat) :=
  match readTemplateNumber 0 cs with
  | none => .error .oversizedNumber
  | some (n, rest) => .ok (if rest.isEmpty then some n else none)

/-- Follows the attributes and indices behind a name. -/
def access : Nat → List Char → List Char → Except TemplateError (List Char)
  | 0, value, _ => .ok value
  | _, value, [] => .ok value
  | fuel + 1, value, '[' :: cs =>
    let index := cs.takeWhile (· != ']')
    let rest := (cs.dropWhile (· != ']')).drop 1
    if index.isEmpty then .error .emptyAttribute
    else
      match number? index with
      | .error e => .error e
      | .ok none => .error .badIndex
      | .ok (some i) =>
        match value[i]? with
        | some c => access fuel [c] rest
        | none => .error .indexOutOfRange
  | _, _, '.' :: cs =>
    let name := cs.takeWhile fun c => c != '.' && c != '['
    if name.isEmpty then .error .emptyAttribute
    else .error (.unknownAttribute (String.ofList name))
  | _, _, _ => .error .strayAfterIndex

/-- The value that a name stands for. No values are given by position, and one by name. -/
def resolve (tableAlias : String) (name : List Char) : Except TemplateError (List Char) := do
  let first := name.takeWhile fun c => c != '.' && c != '['
  match ← number? first with
  | some i => .error (.noPositional i)
  | none =>
    if first = "alias".toList then access name.length tableAlias.toList (name.drop first.length)
    else .error (.unknownName (String.ofList first))

/-- Shows a value as its conversion asks; a null character asks for nothing. -/
def convert (value : List Char) : Option Char → Except TemplateError (List Char)
  | none => .ok value
  | some '\x00' => .ok value
  | some 's' => .ok value
  | some 'r' => .ok (Text.quoted (String.ofList value)).toList
  | some 'a' => .ok (Text.quotedAscii (String.ofList value)).toList
  | some c => .error (.unknownConversion c)

def widthLimit : Nat := Nat.pow 2 32

/-- Lays out a value; a value without a layout stands as it is. -/
def layOut (value layout : List Char) : Except TemplateError (List Char) :=
  if layout.isEmpty then .ok value
  else
    match TextLayout.read layout with
    | .ok l => if l.width ≤ widthLimit then .ok (l.apply value) else .error .tooWide
    | .error fault => .error (.layout fault)

/-- Fills a template: `depth` bounds placeholders inside layouts, `fuel` the length of the text. -/
def fillFrom (tableAlias : String) : Nat → Nat → List Char → Except TemplateError (List Char)
  | 0, _, _ => .error .tooDeep
  | _, 0, _ => .ok []
  | _, _, [] => .ok []
  | depth + 1, fuel + 1, '\x7b' :: '\x7b' :: cs =>
    (fillFrom tableAlias (depth + 1) fuel cs).map ('\x7b' :: ·)
  | depth + 1, fuel + 1, '\x7d' :: '\x7d' :: cs =>
    (fillFrom tableAlias (depth + 1) fuel cs).map ('\x7d' :: ·)
  | _, _, ['\x7b'] => .error .strayOpen
  | _, _, '\x7d' :: _ => .error .strayClose
  | depth + 1, fuel + 1, '\x7b' :: cs => do
    let (field, rest) ← readField cs
    let value ← resolve tableAlias field.name
    let shown ← convert value field.conversion
    let layout ←
      if field.layout.contains '\x7b' || field.layout.contains '\x7d' then
        fillFrom tableAlias depth fuel field.layout
      else pure field.layout
    let text ← layOut shown layout
    return text ++ (← fillFrom tableAlias (depth + 1) fuel rest)
  | depth + 1, fuel + 1, c :: cs => (fillFrom tableAlias (depth + 1) fuel cs).map (c :: ·)

/-- The template with every placeholder filled in. -/
def fill (template tableAlias : String) : Except TemplateError String :=
  (fillFrom tableAlias 2 (template.toList.length + 1) template.toList).map String.ofList

end Template

end CatalogSearch
