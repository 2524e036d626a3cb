import CatalogSearch.Search.Plan
import CatalogSearch.Settings
import CatalogSearch.Store

/-!
# Pages

Running a paged search: the count query first, then the data query if the page can hold rows. Both
queries are checked before anything is sent. A page size that is not positive is replaced by the
default size, in the query and in the result.
-/

namespace CatalogSearch

/-- What can be handed in for execution in the place of a query. -/
inductive Submission where
  /-- A query, with its text, if that is one, and with parameters of any kind. -/
  | query (text : Option String) (parameters : Value)
  /-- Something else. -/
  | other (given : Value)

def Submission.ofQuery (q : Query) : Submission := .query (some q.text) (.list q.parameters)

/-- A page of a result. -/
structure SearchPage where
  rows : List Row
  page : Int
  pageSize : Int
  totalSize : Int
  totalPages : Int

namespace Submission

/-- The query that was handed in, if it has text, a list of parameters, and one parameter for each
placeholder. -/
def check (role : QueryRole) : Submission → Except QueryDefect Query
  | other v => .error (.notAQuery role v)
  | query (some text) parameters =>
    if (Text.trim text).isEmpty then .error (.noText role)
    else match parameters with
    | .list ps =>
      if Query.marks text = ps.length then .ok ⟨text, ps⟩
      else .error (.unpaired role (Query.marks text) ps.length)
    | _ => .error (.noParameters role)
  | query none _ => .error (.noText role)

end Submission

/-- The page window of a data query: its last two parameters. The size and the offset are kept as
values too, because they are sent and shown as they were given. -/
structure Window where
  filters : List Value
  sizeValue : Value
  offsetValue : Value
  size : Int
  offset : Int

/-- The window of a data query. An offset below zero counts as zero. -/
def Query.window (q : Query) : Except QueryDefect Window :=
  match q.parameters.reverse with
  | offset :: size :: filters =>
    match size.asInteger?, offset.asInteger? with
    | some n, some k =>
      let least := if 0 < k then offset else .int 0
      .ok ⟨filters.reverse, size, least, n, max 0 k⟩
    | _, _ => .error (.badWindow size offset)
  | _ => .error .noWindow

/-- The first column of the first row; null without rows. -/
def firstScalar : List Row → Value
  | ((_, v) :: _) :: _ => v
  | _ => .null

/-- The count that a reply holds. Nothing counts as zero. -/
def countOf (rows : List Row) : Except Failure Int :=
  let v := firstScalar rows
  if v.isTruthy then v.toInteger.mapError .integer else .ok 0

/-- The least number of pages that is not below a quotient. -/
def pagesUpTo (quotient : Binary64) : Except Failure Int :=
  match quotient.ceil? with
  | some n => .ok n
  | none => .error .pageCountOverflow

/-- How many pages of a size hold a number of rows: the quotient as the nearest double, rounded up.
A quotient that no double can hold has none. -/
def pageCount (total size : Int) : Except Failure Int :=
  pagesUpTo
    (Binary64.ofRatio (decide (total < 0) != decide (size < 0)) total.natAbs size.natAbs)

/-- Runs the two checked queries of a search. -/
def runPage (settings : Settings) (data count : Query) : Run SearchPage := do
  let w ← Run.ofExcept (data.window.mapError .defect)
  let corrected := w.size ≤ 0
  let size := if corrected then settings.defaultPageSize else w.size
  let data := if corrected then ⟨data.text, w.filters ++ [.int size, w.offsetValue]⟩ else data
  if corrected then Run.report [.pageSizeCorrected w.sizeValue size]
  let total ← Run.ofExcept (countOf (← Run.ask count))
  let rows ← if w.offset < total then Run.ask data else pure []
  if size = 0 then throw .zeroPageSize
  let pages ← Run.ofExcept (pageCount total size)
  return ⟨rows, w.offset.fdiv size + 1, size, total, pages⟩

/-- Runs a search that was handed in as two queries. -/
def runSubmitted (settings : Settings) (data count : Submission) : Run SearchPage := do
  let data ← Run.ofExcept ((data.check .data).mapError .defect)
  let count ← Run.ofExcept ((count.check .count).mapError .defect)
  runPage settings data count

def SearchPlan.run (settings : Settings) (plan : SearchPlan) : Run SearchPage :=
  runSubmitted settings (.ofQuery plan.dataQuery) (.ofQuery plan.countQuery)

end CatalogSearch
