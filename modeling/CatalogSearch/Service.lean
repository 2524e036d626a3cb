import CatalogSearch.Access
import CatalogSearch.Entity.Search
import CatalogSearch.Json.Encoding
import CatalogSearch.Request.Reading
import CatalogSearch.Service.Hardening
import CatalogSearch.Value.Wire

/-!
# The service

One request from arrival to answer. The checks come in a fixed order: the route and the method, the
syntax of the body, the token and the role, the form of the body. Only then is anything searched. A
search that fails in the store is answered without a word about the query; every other fault brings
the request down, and so does an answer that cannot be written.
-/

namespace CatalogSearch

/-- What a path leads to. -/
inductive Route where
  | health
  | search (e : Entity)
  deriving DecidableEq, Repr

namespace Route

def all : List Route := health :: Entity.all.map search

def path : Route → String
  | health => "/health"
  | search e => "/api/" ++ e.name ++ "/search"

def method : Route → String
  | health => "GET"
  | search _ => "POST"

/-- Whether a path is that of the route. A line break at its end does not count. -/
def isAt (r : Route) (path : List Char) : Bool :=
  path == r.path.toList || path == r.path.toList ++ ['\n']

def ofPath? (path : List Char) : Option Route := all.find? (·.isAt path)

/-- Whether a path leads to a route but for slashes at its end. -/
def isNear (path : List Char) : Bool :=
  path.getLast? == some '/' && (ofPath? (path.reverse.dropWhile (· == '/')).reverse).isSome

end Route

namespace Entity

/-- The roles that may search for a kind of record. -/
def roles : Entity → List String
  | logs => [Principal.adminRole]
  | _ => [Principal.adminRole, Principal.regularRole]

/-- What the log calls a kind of record. -/
def area : Entity → String
  | documents => "document"
  | notes => "note"
  | elements => "element"
  | logs => "log"

end Entity

/-- Why an answer cannot be written. -/
inductive WriteFault where
  | notFinite
  | loneHalf
  /-- A row that is too deep or holds half of a surrogate pair. -/
  | row
  deriving DecidableEq, Repr

/-- A fault that brings a request down. -/
inductive ServiceFault where
  | search (f : Failure)
  | access (e : TokenError)
  | write (f : WriteFault)

/-- What became of a request: the answer, the fault behind it, how many sessions of the store were
closed, and the last state of the session. -/
structure Served where
  answer : HttpAnswer
  fault : Option ServiceFault := none
  closed : Nat := 0
  session : Session

/-- The body of a request. -/
inductive Body where
  | empty
  | json (v : Value)
  | other

/-- What is wrong with the syntax of a body. -/
inductive BodyError where
  | malformed (position : Nat)
  | unreadable

namespace Body

/-- How deep the arrays and objects of a body may nest. -/
def depthLimit : Nat := 960

def read (r : HttpRequest) : Except BodyError Body :=
  if r.body.isEmpty then .ok .empty
  else if !r.isJson then .ok .other
  else
    match Json.textOfBytes? r.body with
    | none => .error .unreadable
    | some t =>
      match Json.readWith Json.Numeral.toValue depthLimit t with
      | .ok v => .ok (.json v)
      | .error (.malformed _ position) => .error (.malformed position)
      | .error _ => .error .unreadable

/-- The search request that a body holds. -/
def request : Body → Checked SearchRequest
  | empty => .issue .missing .null
  | json v => SearchRequest.readWith (fun _ => .notFields) v
  | other => .issue .notFields .null

end Body

/-- The answer to a body that cannot be read. -/
def BodyError.answer : BodyError → HttpAnswer
  | malformed position => .issues [⟨[.index position], .notJson, .object []⟩]
  | unreadable => .detail 400 "There was an error parsing the body"

/-- The answer to a body with issues. The values that were found are written too, so they have to be
values of JSON. -/
def answerIssues (found : List Issue) : Except WriteFault HttpAnswer :=
  if !found.all (·.input.isFinite) then .error .notFinite
  else if !found.all (·.input.isEncodable) then .error .loneHalf
  else .ok (.issues found)

/-- A page as it is answered. -/
def SearchPage.toValue (page : SearchPage) : Value :=
  .object
    [("data", .list (page.rows.map .object)), ("page", .int page.page),
      ("pageSize", .int page.pageSize), ("totalSize", .int page.totalSize),
      ("totalPages", .int page.totalPages)]

/-- How high a value of a row may be. -/
def heightLimit : Nat := 255

/-- Whether a value of a row can be written. -/
def Value.isWritable (v : Value) : Bool := v.isEncodable && v.height ≤ heightLimit

/-- The answer with a page. -/
def answerPage (page : SearchPage) : Except WriteFault HttpAnswer :=
  if page.rows.all (·.all fun (column, v) => !column.hasHalf && v.isWritable) then
    .ok (.json 200 page.toValue.finite)
  else .error .row

/-- What became of a request after its token was looked at. -/
def Served.ofAnswer (session : Session) : Except WriteFault HttpAnswer → Served
  | .ok a => ⟨a, none, 1, session⟩
  | .error f => ⟨.broken, some (.write f), 1, session⟩

/-- Answers a search on behalf of someone. -/
def answerSearch (settings : Settings) (e : Entity) (request : SearchRequest) (p : Principal)
    (session : Session) : Served :=
  match (e.search settings request p).run.run session with
  | (.ok page, session) => .ofAnswer session (answerPage page)
  | (.error (.execution _ _), session) =>
    let noted := session.notices ++ [.searchFailed e.area (p.claim "sub")]
    ⟨.detail 500 "Search failed", none, 1, { session with notices := noted }⟩
  | (.error f, session) => ⟨.broken, some (.search f), 1, session⟩

/-- Answers a request for a search. -/
def serveSearch (settings : Settings) (now : Int) (e : Entity) (r : HttpRequest)
    (session : Session) : Served :=
  match Body.read r with
  | .error problem => ⟨problem.answer, none, 0, session⟩
  | .ok body =>
    match authenticate settings now r.bearerToken? >>= requireRole e.roles with
    | .error (.denied d) => ⟨.detail d.status d.message, none, 1, session⟩
    | .error (.unchecked problem) => ⟨.broken, some (.access problem), 1, session⟩
    | .ok p =>
      match body.request with
      | .error found => .ofAnswer session (answerIssues found)
      | .ok request => answerSearch settings e request p session

/-- Answers a request, without the headers that every answer has. A path that leads to a route but
for slashes at its end is answered with the way there. -/
def route (settings : Settings) (now : Int) (r : HttpRequest) (session : Session) : Served :=
  let path := r.path.toList
  match Route.ofPath? path with
  | none =>
    ⟨if Route.isNear path then .empty 307 else .detail 404 "Not Found", none, 0, session⟩
  | some target =>
    if r.method != target.method then
      ⟨(HttpAnswer.detail 405 "Method Not Allowed").withHeaders [("allow", target.method)], none, 0,
        session⟩
    else
      match target with
      | .health => ⟨.json 200 (.object [("status", .text "ok")]), none, 0, session⟩
      | .search e => serveSearch settings now e r session

/-- Answers a request. `fresh` is the id of a request that brings none. -/
def serve (settings : Settings) (now : Int) (fresh : String) (r : HttpRequest)
    (session : Session) : Served :=
  let served := route settings now r session
  match served.fault with
  | some _ => served
  | none =>
    let id := requestId fresh (.text ((r.header? "x-request-id").getD ""))
    let headers := originHeaders settings (r.header? "origin") ++ hardeningHeaders id
    { served with answer := served.answer.withHeaders headers }

end CatalogSearch
