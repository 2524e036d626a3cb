import CatalogSearch.Request
import CatalogSearch.Request.Issue
import CatalogSearch.Text.Blank
import CatalogSearch.Text.Integer

/-!
# Reading a request

A request is read leniently from a value: integers may come as booleans, as whole doubles or as
text, booleans as numbers or words, and fields under a name of their own beside the one on the wire.
Unknown fields are passed over. The condition and the value of a clause are not looked into.
-/

namespace CatalogSearch

/-- The texts that mean yes. -/
def yesWords : List String := ["1", "true", "t", "yes", "y", "on"]

/-- The texts that mean no. -/
def noWords : List String := ["0", "false", "f", "no", "n", "off"]

/-- The integers of 64 bits. -/
def isWord (i : Int) : Bool := -Int.pow 2 63 ≤ i && i < Int.pow 2 63

/-- The whole number that a double is, if it lies strictly between the bounds of 64 bits. -/
def Binary64.asWord (x : Binary64) : Except IssueKind Int :=
  match x.truncate? with
  | none => .error .notFinite
  | some i =>
    if !x.isWhole then .error .fractional
    else if i.natAbs < Nat.pow 2 63 then .ok i
    else .error .oversizedInteger

def booleanWord? (word : String) : Option Bool :=
  if yesWords.contains word then some true
  else if noWords.contains word then some false
  else none

def booleanNumber? (i : Int) : Option Bool :=
  if i = 0 then some false else if i = 1 then some true else none

/-- The boolean that was read from a value, or an issue with it. -/
def readable (input : Value) : Option Bool → Checked Bool
  | some b => .ok b
  | none => .issue .unreadableBoolean input

/-- The boolean that a value means. -/
def readBoolean : Value → Checked Bool
  | .bool b => .ok b
  | .text t => readable (.text t) (t.string?.bind fun s => booleanWord? (s.map Char.toLower))
  | .int i => if isWord i then readable (.int i) (booleanNumber? i) else .issue .notBoolean (.int i)
  | .float x =>
    match x.asWord with
    | .ok i => readable (.float x) (booleanNumber? i)
    | .error _ => .issue .notBoolean (.float x)
  | v => .issue .notBoolean v

/-- The digits of a numeral without its leading zeros and the underscores among them. A zero before
the point or at the end stays. A minus may follow the zeros. Nothing is left of a text that begins
otherwise. -/
def dropZeros : List Char → Option (List Char)
  | [] => none
  | c :: cs =>
    if c == '-' || ('1' ≤ c && c ≤ '9') then some (c :: cs)
    else if c != '0' then none
    else
      let zeros := c :: cs.takeWhile fun d => d == '0' || d == '_'
      match cs.dropWhile fun d => d == '0' || d == '_' with
      | [] => some (zeros.drop (zeros.length - 1))
      | '.' :: rest => some (zeros.drop (zeros.length - 1) ++ '.' :: rest)
      | d :: rest => if d == '-' || ('1' ≤ d && d ≤ '9') then some (d :: rest) else none

/-- The numeral without a fraction of zeros. -/
def dropFraction (cs : List Char) : List Char :=
  match cs.dropWhile (· != '.') with
  | _ :: f :: fraction =>
    if (f :: fraction).all (· == '0') then cs.takeWhile (· != '.') else cs
  | _ => cs

/-- Whether two underscores stand side by side. -/
def hasDoubleUnderscore : List Char → Bool
  | '_' :: '_' :: _ => true
  | _ :: cs => hasDoubleUnderscore cs
  | [] => false

/-- The numeral without its underscores, if each of them stands alone and none at an end. -/
def dropUnderscores (cs : List Char) : List Char :=
  if cs.head? == some '_' || cs.getLast? == some '_' || hasDoubleUnderscore cs then cs
  else cs.filter (· != '_')

/-- The integer of a plain numeral: an optional minus and digits without leading zeros, at most as
many characters as an integer may have digits. -/
def plainInteger? (cs : List Char) : Option Int :=
  let (negative, digits) := match cs with
    | '-' :: ds => (true, ds)
    | ds => (false, ds)
  match digits.mapM Text.asciiDigit? with
  | none | some [] => none
  | some [0] => some 0
  | some (0 :: _) => none
  | some ds =>
    if cs.length > Text.digitLimit then none else some (Text.signed negative (Text.ofDigits ds))

/-- Whether a text begins with a numeral that is too long. -/
def isOversized (cs : List Char) : Bool :=
  let (sign, rest) := match cs with
    | '-' :: ds => (1, ds)
    | ds => (0, ds)
  rest.head? != some '0' &&
    decide (sign + (rest.takeWhile fun c => (Text.asciiDigit? c).isSome).length > Text.digitLimit)

/-- The digits of a numeral without leading zeros, a fraction of zeros and underscores between
digits. -/
def cleanDigits (cs : List Char) : Option (List Char) :=
  (dropZeros cs).map fun ds => dropUnderscores (dropFraction ds)

/-- The text of a numeral without what does not count: blanks around it, a plus, and whatever does
not count in its digits. -/
def cleanNumeral (cs : List Char) : Option (List Char) :=
  match Text.stripChars Text.isWhiteSpace cs with
  | '+' :: '-' :: _ => none
  | '+' :: rest => cleanDigits rest
  | '-' :: rest => (cleanDigits rest).map ('-' :: ·)
  | rest => cleanDigits rest

/-- The integer that a text means, or the kind of issue with it. -/
def readNumeral (cs : List Char) : Except IssueKind Int :=
  if isOversized cs then .error .oversizedInteger
  else
    match (cleanNumeral cs).bind plainInteger? with
    | some i => .ok i
    | none => .error .unreadableInteger

/-- The integer that a value means, or the kind of issue with it. -/
def wholeNumber : Value → Except IssueKind Int
  | .int i => .ok i
  | .bool b => .ok (if b then 1 else 0)
  | .float x => x.asWord
  | .text t =>
    match t.string? with
    | some s => readNumeral s.toList
    | none => .error .unreadableInteger
  | _ => .error .notInteger

def readWhole (v : Value) : Checked Int :=
  match wholeNumber v with
  | .ok i => .ok i
  | .error kind => .issue kind v

def readText : Value → Checked Text
  | .text t => .ok t
  | v => .issue .notText v

/-- The field of an object under the first of some names that it has, read; when it has none, the
default, or an issue if there is no default. -/
def readField {α : Type} (fields : Row) (names : List String) (default? : Option α)
    (read : Value → Checked α) : Checked α :=
  match names.find? fun n : String => (fields.get? n).isSome with
  | some n => (read ((fields.get? n).getD .null)).under (.name n)
  | none =>
    match default? with
    | some a => .ok a
    | none => (Checked.issue .missing (.object fields)).under (.name (names.headD ""))

/-- Reads a clause; `notObject` is the issue with a value that is no object. -/
def Clause.read (notObject : String → IssueKind) : Value → Checked Clause
  | .object fields =>
    let field := readField fields ["field"] none readText
    let condition := readField fields ["condition"] none readText
    let value := readField fields ["value"] (some .null) .ok
    let negate := readField fields ["not", "negate"] (some false) readBoolean
    Checked.app (Checked.app (Checked.app (field.map Clause.mk) condition) value) negate
  | v => .issue (notObject "FilterClause") v

def Clause.readAll (notObject : String → IssueKind) : Value → Checked (List Clause)
  | .list items => Checked.all (Clause.read notObject) 0 items
  | v => .issue .notList v

/-- Reads a request; `notObject` is the issue with a value that is no object. -/
def SearchRequest.readWith (notObject : String → IssueKind) : Value → Checked SearchRequest
  | .object fields =>
    let criteria := readField fields ["query", "criteria"] (some []) (Clause.readAll notObject)
    let page := readField fields ["page"] (some 1) readWhole
    let pageSize := readField fields ["pageSize", "page_size"] (some 10) readWhole
    Checked.app (Checked.app (criteria.map SearchRequest.mk) page) pageSize
  | v => .issue (notObject "SearchRequest") v

def SearchRequest.read (v : Value) : Checked SearchRequest := SearchRequest.readWith .notForm v

end CatalogSearch
