import CatalogSearch.Request.Issue
import CatalogSearch.Text.Blank
import CatalogSearch.Value

/-!
# HTTP

Requests and answers as far as the service looks at them. Header names are in lower case.
-/

namespace CatalogSearch

structure HttpRequest where
  method : String
  path : String
  headers : List (String × String) := []
  body : List UInt8 := []

/-- What an answer holds. -/
inductive Content where
  | json (v : Value)
  | plain (text : String)

structure HttpAnswer where
  status : Nat
  headers : List (String × String)
  content : Content

namespace HttpRequest

def header? (r : HttpRequest) (name : String) : Option String := r.headers.lookup name

/-- Splits a text at the first of some character; without one, nothing comes after. -/
def splitAt (mark : Char) (cs : List Char) : List Char × List Char :=
  (cs.takeWhile (· != mark), (cs.dropWhile (· != mark)).drop 1)

/-- Whether the body is sent as JSON: by the type `application/json` or `application/…+json`, in any
case and with any parameters. -/
def isJson (r : HttpRequest) : Bool :=
  match r.header? "content-type" with
  | none => false
  | some given =>
    let kind := (Text.stripChars Text.isBlank (splitAt ';' given.toList).1).map Char.toLower
    let (main, sub) := splitAt '/' kind
    kind.count '/' == 1 && main == "application".toList &&
      (sub == "json".toList || "+json".toList.isSuffixOf sub)

/-- The token of a bearer: what stands behind the scheme and a blank. -/
def bearerToken? (r : HttpRequest) : Option String :=
  match r.header? "authorization" with
  | none => none
  | some given =>
    let (scheme, rest) := splitAt ' ' given.toList
    let token := Text.stripChars Text.isBlank rest
    if scheme.map Char.toLower == "bearer".toList && !token.isEmpty then
      some (String.ofList token)
    else none

end HttpRequest

namespace HttpAnswer

def json (status : Nat) (v : Value) : HttpAnswer :=
  ⟨status, [("content-type", "application/json")], .json v⟩

/-- An answer that says what is wrong. -/
def detail (status : Nat) (message : String) : HttpAnswer :=
  json status (.object [("detail", .text message)])

def empty (status : Nat) : HttpAnswer := ⟨status, [], .plain ""⟩

/-- An answer that lists issues with the body. -/
def issues (found : List Issue) : HttpAnswer :=
  let step : Step → Value
    | .name field => .text field
    | .index n => .int n
  json 422 (.object [("detail", .list (found.map fun i => .object
    [("type", .text i.kind.code), ("loc", .list (.text "body" :: i.path.map step)),
      ("msg", .text i.kind.message)]))])

/-- The answer to a request that brought the service down. -/
def broken : HttpAnswer :=
  ⟨500, [("content-type", "text/plain; charset=utf-8")], .plain "Internal Server Error"⟩

def withHeaders (a : HttpAnswer) (more : List (String × String)) : HttpAnswer :=
  { a with headers := a.headers ++ more }

end HttpAnswer

end CatalogSearch
