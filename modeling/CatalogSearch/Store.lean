import CatalogSearch.Failure
import CatalogSearch.Notice

/-!
# The store

A search talks to the store in queries, one reply to each. `Session` is the side of the store that a
search can see: the replies still to come, the queries sent and the notices written. A search is a
`Run` over a session; it ends with a value or with the first failure.
-/

namespace CatalogSearch

/-- What the store answers to a query. -/
inductive Reply where
  | rows (rows : List Row)
  /-- A fault, raised on connecting or by the query. -/
  | fault (connecting : Bool) (fault : StoreFault)

/-- The state of a search. -/
structure Session where
  /-- The replies to come. A store that has no more answers without rows. -/
  replies : List Reply := []
  /-- The queries sent, in order. -/
  calls : List Query := []
  /-- The notices written, in order. -/
  notices : List Notice := []

/-- A computation that talks to the store. -/
abbrev Run := ExceptT Failure (StateM Session)

/-- The kinds of fault that are a matter of the query: a refusal, or a value that the store cannot
take. -/
def StoreFaultKind.isRefusal : StoreFaultKind → Bool
  | database | overflow | wrongType | badValue => true
  | runtime | key => false

namespace Run

def report (notices : List Notice) : Run Unit :=
  modify fun s => { s with notices := s.notices ++ notices }

/-- Ends with the failure that a fault is. A refusal is noted with the query. -/
def refuse {α : Type} (q : Query) (f : StoreFault) : Run α := do
  if f.kind.isRefusal then
    report [.queryFailed q.text q.parameters]
    throw (.execution q f)
  else throw (.store f)

def ask (q : Query) : Run (List Row) := do
  let s ← get
  match s.replies with
  | [] =>
    set { s with calls := s.calls ++ [q] }
    return []
  | .rows rows :: rest =>
    set { s with replies := rest, calls := s.calls ++ [q] }
    return rows
  | .fault connecting f :: rest =>
    set { s with replies := rest, calls := if connecting then s.calls else s.calls ++ [q] }
    refuse q f

/-- A result without the store. -/
def ofExcept {α : Type} : Except Failure α → Run α
  | .ok a => pure a
  | .error e => throw e

end Run

end CatalogSearch
