import CatalogSearch.Service.Http
import CatalogSearch.Settings
import CatalogSearch.Value.Display

/-!
# Hardening

What every answer carries: headers that keep browsers from guessing, framing and caching, the id of
the request, and the permission for the web origins that may read the answer.
-/

namespace CatalogSearch

/-- A character that the id of a request may have. -/
def isRequestIdChar (c : Char) : Bool :=
  ('a' ≤ c && c ≤ 'z') || ('A' ≤ c && c ≤ 'Z') || ('0' ≤ c && c ≤ '9') ||
    c == '.' || c == '_' || c == '-'

/-- The id of a request: the one that the client gives, without blanks around it, if it has 1 to 128
characters that are allowed; else a fresh one. -/
def requestId (fresh : String) (given : Value) : String :=
  let id := if given.isTruthy then Text.trim (given.display.string?.getD "") else ""
  let cs := id.toList
  if !cs.isEmpty && cs.length ≤ 128 && cs.all isRequestIdChar then id else fresh

/-- The headers that keep browsers from guessing, framing and caching, and the id of the request. -/
def hardeningHeaders (id : String) : List (String × String) :=
  [("x-content-type-options", "nosniff"), ("x-frame-options", "DENY"),
    ("referrer-policy", "no-referrer"), ("cache-control", "no-store"), ("x-request-id", id)]

/-- The headers for a request from a web origin. -/
def originHeaders (settings : Settings) (origin : Option String) : List (String × String) :=
  match origin with
  | none => []
  | some o =>
    ("access-control-allow-credentials", "true") ::
      (if settings.originList.contains o then [("access-control-allow-origin", o)] else [])

end CatalogSearch
