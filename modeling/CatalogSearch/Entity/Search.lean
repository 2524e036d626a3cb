import CatalogSearch.Entity.Visibility
import CatalogSearch.Json.Reader

/-!
# Searching an entity

A whole search: the request as it is allowed, its plan, the page, and the related rows of the page.
Documents carry their tags and their id paths, notes their tags, elements the sorted ids of their
parents.
-/

namespace CatalogSearch

/-- The id paths that a document's row holds. Text that is no JSON counts as no paths, with a
notice. -/
def decodePaths (row : Row) : Except Failure (Value × List Notice) :=
  let stored := (row.get? Entity.pathsColumn).getD .null
  match if stored.isTruthy then stored else .text "[]" with
  | .text t =>
    match Json.read t with
    | .ok v => .ok (v, [])
    | .error (.tooDeep inObject) => .error (.pathsTooDeep inObject)
    | .error _ =>
      .ok (.list [], [.malformedPaths ((row.get? "archive_document_id").getD .null) (.text t)])
  | v => .error (.notJsonText v.kind)

/-- The values of a column that every row must have. -/
def columnValues (name : String) (rows : List Row) : Except Failure (List Value) :=
  rows.mapM fun row =>
    match row.get? name with
    | some v => .ok v
    | none => .error (.missingColumn name)

/-- The related rows of the rows of a page, which are known by a key. -/
def RelatedSource.load (source : RelatedSource) (key : String) (rows : List Row) : Run Groups := do
  loadRelated source.select source.owner (← Run.ofExcept (columnValues key rows))

def withPaths (row : Row) : Run Row := do
  let (paths, notices) ← Run.ofExcept (decodePaths row)
  Run.report notices
  return row.set Entity.pathsColumn paths

/-- An element with the sorted ids of its parents. -/
def withParents (groups : Groups) (row : Row) : Except Failure Row := do
  let related ← groups.rowsOf ((row.get? "signature_element_id").getD .null)
  let ids ← columnValues "parent_element_id" related
  match Value.sorted ids with
  | .ok sorted => return row.set "parent_ids" (.list sorted)
  | .error pair => throw (.unlike pair)

namespace Entity

/-- Adds to the rows of a page what belongs to them. -/
def complete (rows : List Row) : Entity → Run (List Row)
  | documents => do
    let groups ← documentTags.load "archive_document_id" rows
    (← Run.ofExcept (groups.attach "archive_document_id" "tags" rows)).mapM withPaths
  | notes => do
    let groups ← noteTags.load "note_id" rows
    Run.ofExcept (groups.attach "note_id" "tags" rows)
  | elements => do
    let groups ← elementParents.load "signature_element_id" rows
    Run.ofExcept (rows.mapM (withParents groups))
  | logs => return rows

def compile (e : Entity) (settings : Settings) (request : SearchRequest)
    (required : List (String → Fragment)) : Compilation :=
  e.target.compile settings request required

/-- Searches on behalf of someone. -/
def search (e : Entity) (settings : Settings) (request : SearchRequest) (p : Principal) :
    Run SearchPage := do
  let allowed ← Run.ofExcept (e.allow request p)
  Run.report allowed.notices
  let compilation := e.compile settings allowed.request allowed.required
  Run.report compilation.notices
  let page ← (← Run.ofExcept compilation.result).run settings
  return { page with rows := ← e.complete page.rows }

end Entity

end CatalogSearch
