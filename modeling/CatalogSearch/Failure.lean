import CatalogSearch.Json.Reader
import CatalogSearch.Query
import CatalogSearch.Text.Template
import CatalogSearch.Value.Display
import CatalogSearch.Value.Integer
import CatalogSearch.Value.Order

/-!
# Failures

Every way in which compiling or running a search can fail, by its cause. Only failures of the store
that are a matter of the query itself become `execution`; the others pass through as they are. That a
runtime may refuse to show a value that nests too deep, or an integer with too many digits, is no
failure here.
-/

namespace CatalogSearch

inductive StoreFaultKind where
  | database
  | overflow
  | wrongType
  | badValue
  | runtime
  | key
  deriving DecidableEq, Repr

/-- A fault raised by the store. -/
structure StoreFault where
  kind : StoreFaultKind
  message : String
  deriving DecidableEq, Repr

/-- The words of a fault; a missing key is shown in quotes. -/
def StoreFault.text (f : StoreFault) : String :=
  if f.kind = .key then Text.quoted f.message else f.message

inductive QueryRole where
  | data
  | count
  deriving DecidableEq, Repr

inductive QueryDefect where
  | notAQuery (role : QueryRole) (given : Value)
  | noText (role : QueryRole)
  | noParameters (role : QueryRole)
  | unpaired (role : QueryRole) (marks parameters : Nat)
  | noWindow
  | badWindow (size offset : Value)

/-- Why a search could not be compiled or run. -/
inductive Failure where
  | invalidTable (name : String)
  | template (error : TemplateError)
  | unknownStrategy (given : Value)
  /-- An operator outside the table, on a value that it does not fit. -/
  | unnamedOperator
  | defect (defect : QueryDefect)
  | execution (query : Query) (fault : StoreFault)
  /-- A fault of the store that has nothing to do with the query. -/
  | store (fault : StoreFault)
  /-- A count that is no integer. -/
  | integer (error : IntegerError)
  | zeroPageSize
  /-- More pages than a double can count. -/
  | pageCountOverflow
  | missingColumn (name : String)
  /-- An array or an object in the place of a key. -/
  | notAKey (kind : String)
  /-- Parent ids without an order. -/
  | unlike (pair : Unlike)
  /-- A stored list of id paths that is no text. -/
  | notJsonText (kind : String)
  /-- A stored list of id paths that nests too deep. -/
  | pathsTooDeep (inObject : Bool)

def QueryRole.text : QueryRole → String
  | data => "data query"
  | count => "count query"

def QueryDefect.message : QueryDefect → String
  | notAQuery role v => role.text ++ " is not a compiled query: " ++ v.shown
  | noText role => role.text ++ " has no SQL text"
  | noParameters role => role.text ++ " has no parameter list"
  | unpaired role marks parameters =>
    role.text ++ " has " ++ toString marks ++ " placeholders but " ++ toString parameters ++
      " parameters"
  | noWindow => "data query is missing its LIMIT/OFFSET parameters"
  | badWindow size offset =>
    "data query LIMIT/OFFSET must be integers, got " ++ size.shown ++ "/" ++ offset.shown

/-- The words for a failure, with the values in it shown whatever their depth and size. -/
def Failure.message : Failure → String
  | invalidTable name => "invalid table name " ++ Text.quoted name
  | template e => e.message
  | unknownStrategy v => "unknown many-to-many strategy " ++ v.shown
  | unnamedOperator => "'str' object has no attribute 'value'"
  | defect d => d.message
  | execution q f =>
    "search query failed: " ++ f.text ++ "; sql=" ++ Text.quoted q.text ++ " parameters=" ++
      Value.shownList q.parameters
  | store f => f.text
  | integer e => e.message
  | zeroPageSize => "integer division or modulo by zero"
  | pageCountOverflow => "integer division result too large for a float"
  | missingColumn name => Text.quoted name
  | notAKey kind => "unhashable type: '" ++ kind ++ "'"
  | unlike pair => pair.message
  | notJsonText kind => "the JSON object must be str, bytes or bytearray, not " ++ kind
  | pathsTooDeep inObject => Json.tooDeepMessage inObject

end CatalogSearch
