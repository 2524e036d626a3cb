import CatalogSearch.Principal
import CatalogSearch.Related
import CatalogSearch.Search.Page
import CatalogSearch.Search.Target

/-!
# Entities

The four kinds of record that can be searched: documents, notes, elements of the signature tree and
log entries. Each has its search target, and the related rows that its results carry.
-/

namespace CatalogSearch

/-- A kind of record. -/
inductive Entity where
  | documents
  | notes
  | elements
  | logs
  deriving DecidableEq, Repr

/-- A source of related rows: a query without its condition, and the column with the owner. -/
structure RelatedSource where
  select : String
  owner : String

namespace Entity

def all : List Entity := [documents, notes, elements, logs]

def name : Entity → String
  | documents => "documents"
  | notes => "notes"
  | elements => "elements"
  | logs => "logs"

def ofName? (s : String) : Option Entity := all.find? (·.name == s)

/-- The join of a note with its owner. -/
def noteOwnerJoin : String :=
  "LEFT JOIN users AS note_owner ON note_owner.user_id = \x7balias\x7d.owner_user_id"

/-- The join of an element with its component. -/
def elementComponentJoin : String :=
  "LEFT JOIN signature_components AS element_component " ++
    "ON element_component.signature_component_id = \x7balias\x7d.signature_component_id"

/-- The column of a document that holds its id paths. -/
def pathsColumn : String := "descriptive_signature_element_ids"

def documentsTarget : SearchTarget where
  table := "archive_documents"
  primaryKey := "archive_document_id"
  fields :=
    ["archive_document_id", "parent_unit_archive_document_id", "owner_user_id", "type", "title",
      "creator", "creation_date", "number_of_pages", "document_type", "content_description",
      "remarks", "access_level", "is_digitized", "active", "created_on", "modified_on"]
  handlers :=
    [("tags", .linkedToAny "archive_document_tags" "archive_document_id" "tag_id"
        "archive_document_id" .exists_),
      ("descriptive_signature_prefix", .storedPaths pathsColumn)]

def notesTarget : SearchTarget where
  table := "notes"
  primaryKey := "note_id"
  fields := ["note_id", "title", "content", "shared", "owner_user_id", "created_on", "modified_on"]
  handlers :=
    [("tags", .linkedToAny "note_tags" "note_id" "tag_id" "note_id" .exists_),
      ("owner_login", .joinedColumn noteOwnerJoin "note_owner.login")]
  extraJoins := [noteOwnerJoin]
  extraColumns := ["note_owner.login AS owner_login"]

def elementsTarget : SearchTarget where
  table := "signature_elements"
  primaryKey := "signature_element_id"
  fields :=
    ["signature_element_id", "signature_component_id", "name", "description", "element_index",
      "created_on", "modified_on"]
  handlers :=
    [("parent_ids", .linkedToAny "signature_element_parents" "child_element_id" "parent_element_id"
        "signature_element_id" .exists_),
      ("component_name", .joinedColumn elementComponentJoin "element_component.name"),
      ("has_parents", .hasLinked "signature_element_parents" "child_element_id"
        "signature_element_id")]
  extraJoins := [elementComponentJoin]
  extraColumns := ["element_component.name AS component_name"]

def logsTarget : SearchTarget where
  table := "logs"
  primaryKey := "id"
  fields := ["id", "level", "created_on", "user_id", "category", "message"]

def target : Entity → SearchTarget
  | documents => documentsTarget
  | notes => notesTarget
  | elements => elementsTarget
  | logs => logsTarget

def documentTags : RelatedSource where
  select :=
    "SELECT adt.archive_document_id, t.tag_id, t.name, t.description " ++
      "FROM archive_document_tags adt JOIN tags t ON t.tag_id = adt.tag_id"
  owner := "adt.archive_document_id"

def noteTags : RelatedSource where
  select :=
    "SELECT nt.note_id, t.tag_id, t.name, t.description " ++
      "FROM note_tags nt JOIN tags t ON t.tag_id = nt.tag_id"
  owner := "nt.note_id"

def elementParents : RelatedSource where
  select :=
    "SELECT sep.child_element_id, sep.parent_element_id FROM signature_element_parents sep"
  owner := "sep.child_element_id"

end Entity

end CatalogSearch
