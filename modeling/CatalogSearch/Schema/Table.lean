import CatalogSearch.Schema.Column

/-!
# Tables

The tables of the archive, with their columns in order. Tables of records end with the times of
creation and of the last change; link tables and the log do not.
-/

namespace CatalogSearch

structure Table where
  name : String
  columns : List Column

namespace Table

/-- People with an account. -/
def users : Table where
  name := "users"
  columns :=
    [.id "user_id",
      { name := "login", type := .varchar 100, unique := true },
      (Column.required "role" (.varchar 30)).withDefault (.text "regular_user")] ++
      Column.timestamps

def tags : Table where
  name := "tags"
  columns :=
    [.id "tag_id",
      { name := "name", type := .varchar 100, unique := true },
      .optional "description" .text] ++ Column.timestamps

def notes : Table where
  name := "notes"
  columns :=
    [.id "note_id",
      .required "title" (.varchar 300),
      .optional "content" .text,
      (Column.required "shared" .boolean).withDefault (.bool false),
      .refers "owner_user_id" "users.user_id" false] ++ Column.timestamps

def noteTags : Table where
  name := "note_tags"
  columns := [.link "note_id" "notes.note_id" false, .link "tag_id" "tags.tag_id" true]

/-- Documents, and the units that hold them. -/
def archiveDocuments : Table where
  name := "archive_documents"
  columns :=
    [.id "archive_document_id",
      .refers "parent_unit_archive_document_id" "archive_documents.archive_document_id" true,
      .refers "owner_user_id" "users.user_id" false,
      (Column.required "type" (.varchar 20)).withDefault (.text "document"),
      .required "title" (.varchar 500),
      .optional "creator" (.varchar 300),
      .optional "creation_date" (.varchar 100),
      .optional "number_of_pages" .integer,
      .optional "document_type" (.varchar 100),
      .optional "content_description" .text,
      .optional "remarks" .text,
      .optional "access_level" (.varchar 50),
      (Column.required "is_digitized" .boolean).withDefault (.bool false),
      (Column.required "active" .boolean).withDefault (.bool true),
      { name := "descriptive_signature_element_ids", type := .text, default := .value (.text "[]"),
        storeDefault := some "[]" }] ++ Column.timestamps

def archiveDocumentTags : Table where
  name := "archive_document_tags"
  columns :=
    [.link "archive_document_id" "archive_documents.archive_document_id" false,
      .link "tag_id" "tags.tag_id" true]

def signatureComponents : Table where
  name := "signature_components"
  columns :=
    [.id "signature_component_id",
      { name := "name", type := .varchar 300, unique := true },
      .optional "description" .text] ++ Column.timestamps

/-- The elements of the signature tree. -/
def signatureElements : Table where
  name := "signature_elements"
  columns :=
    [.id "signature_element_id",
      { name := "signature_component_id", type := .integer, indexed := true },
      .required "name" (.varchar 300),
      .optional "description" .text,
      .optional "element_index" (.varchar 50)] ++ Column.timestamps

def signatureElementParents : Table where
  name := "signature_element_parents"
  columns :=
    [.link "child_element_id" "signature_elements.signature_element_id" false,
      .link "parent_element_id" "signature_elements.signature_element_id" true]

def logs : Table where
  name := "logs"
  columns :=
    [.id "id",
      .required "level" (.varchar 10),
      { name := "created_on", type := .timestamp, default := .now },
      .optional "user_id" (.varchar 100),
      .optional "category" (.varchar 100),
      .required "message" .text,
      .optional "data" .text]

def all : List Table :=
  [users, tags, notes, noteTags, archiveDocuments, archiveDocumentTags, signatureComponents,
    signatureElements, signatureElementParents, logs]

def ofName? (name : String) : Option Table := all.find? (·.name == name)

end Table

end CatalogSearch
