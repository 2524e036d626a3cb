import CatalogSearch.Schema.Column
import CatalogSearch.Text.DecimalDigit

/-!
# Migrations

The tables as the store holds them come about in steps, each with a revision. A store is at the
number of steps that it has taken; it can be moved to another revision up or down the line. What a
store holds depends on its revision only.
-/

namespace CatalogSearch

/-- A column as the store holds it. -/
structure StoredColumn where
  name : String
  type : ColumnType
  nullable : Bool
  /-- The SQL text of the default. -/
  default : Option String := none

/-- A table as the store holds it, with the names of its indexes. -/
structure StoredTable where
  name : String
  columns : List StoredColumn
  indexes : List String := []

/-- A step: tables that it creates, and columns that it adds to tables. -/
structure Migration where
  revision : String
  tables : List StoredTable
  columns : List (String × StoredColumn)

namespace StoredColumn

def required (name : String) (type : ColumnType) : StoredColumn := ⟨name, type, false, none⟩

def optional (name : String) (type : ColumnType) : StoredColumn := ⟨name, type, true, none⟩

def filled (name : String) (type : ColumnType) (default : String) : StoredColumn :=
  ⟨name, type, false, some default⟩

/-- The number that identifies a row, and the times of creation and of the last change. -/
def head (key : String) : List StoredColumn :=
  [required key .integer, optional "created_on" .timestamp, optional "modified_on" .timestamp]

end StoredColumn

namespace Migration

open StoredColumn

/-- The first step: all tables but one. -/
def initial : Migration where
  revision := "0001_init"
  tables :=
    [⟨"users", head "user_id" ++
        [required "login" (.varchar 100), filled "role" (.varchar 30) "'regular_user'"], []⟩,
      ⟨"tags", head "tag_id" ++ [required "name" (.varchar 100), optional "description" .text], []⟩,
      ⟨"notes", head "note_id" ++
        [required "title" (.varchar 300), optional "content" .text, filled "shared" .boolean "0",
          required "owner_user_id" .integer],
        ["ix_notes_owner_user_id"]⟩,
      ⟨"note_tags", [required "note_id" .integer, required "tag_id" .integer],
        ["ix_note_tags_tag_id"]⟩,
      ⟨"archive_documents", head "archive_document_id" ++
        [optional "parent_unit_archive_document_id" .integer, required "owner_user_id" .integer,
          filled "type" (.varchar 20) "'document'", required "title" (.varchar 500),
          optional "creator" (.varchar 300), optional "creation_date" (.varchar 100),
          optional "number_of_pages" .integer, optional "document_type" (.varchar 100),
          optional "content_description" .text, optional "remarks" .text,
          optional "access_level" (.varchar 50), filled "is_digitized" .boolean "0",
          filled "active" .boolean "1"],
        ["ix_archive_documents_owner_user_id", "ix_archive_documents_parent"]⟩,
      ⟨"archive_document_tags",
        [required "archive_document_id" .integer, required "tag_id" .integer],
        ["ix_archive_document_tags_tag_id"]⟩,
      ⟨"signature_elements", head "signature_element_id" ++
        [required "signature_component_id" .integer, required "name" (.varchar 300),
          optional "description" .text, optional "element_index" (.varchar 50)],
        ["ix_signature_elements_component"]⟩,
      ⟨"signature_element_parents",
        [required "child_element_id" .integer, required "parent_element_id" .integer],
        ["ix_signature_element_parents_parent"]⟩,
      ⟨"logs",
        [required "id" .integer, required "level" (.varchar 10), required "created_on" .timestamp,
          optional "user_id" (.varchar 100), optional "category" (.varchar 100),
          required "message" .text, optional "data" .text], []⟩]
  columns := []

/-- The second step: signature components, and the id paths of documents. -/
def signatureComponents : Migration where
  revision := "0002_signature_components"
  tables :=
    [⟨"signature_components", head "signature_component_id" ++
        [required "name" (.varchar 300), optional "description" .text], []⟩]
  columns := [("archive_documents", filled "descriptive_signature_element_ids" .text "'[]'")]

def all : List Migration := [initial, signatureComponents]

def apply (tables : List StoredTable) (m : Migration) : List StoredTable :=
  tables.map (fun t => { t with
    columns := t.columns ++ m.columns.filterMap fun c => if c.1 == t.name then some c.2 else none })
    ++ m.tables

/-- The tables of a store after a number of steps. -/
def tablesAt (steps : Nat) : List StoredTable := (all.take steps).foldl apply []

/-- The revision of a store after a number of steps; a store without steps has none. -/
def revisionAt (steps : Nat) : Option String := ((all.take steps).getLast?).map (·.revision)

/-- Why a store cannot be moved. -/
inductive MoveError where
  | unknownRevision (name : String)
  | notBelow (name : String)
  /-- A number of steps that cannot be made; `steps` is the number as written. -/
  | tooFar (steps : String) (count : Nat)
  deriving DecidableEq, Repr

def MoveError.message : MoveError → String
  | unknownRevision name => "Can't locate revision identified by '" ++ name ++ "'"
  | notBelow name =>
    "Destination " ++ name ++ " is not a valid downgrade target from current head(s)"
  | tooFar steps count =>
    "Relative revision " ++ steps ++ " didn't produce " ++ toString count ++ " migrations"

/-- The number of steps that a name stands for: a revision, the beginning of exactly one, or one end
of the line. -/
def position? (name : String) : Option Nat :=
  if name == "base" then some 0
  else if name == "head" || name == "heads" then some all.length
  else
    match all.findIdx? (·.revision == name) with
    | some i => some (i + 1)
    | none =>
      match (all.zipIdx 1).filter fun (m, _) => name.toList.isPrefixOf m.revision.toList with
      | [(_, n)] => some n
      | _ => none

/-- The number of steps that a target names by a sign and digits, up or down. -/
def steps? (target : String) : Option (Bool × Nat) :=
  match target.toList with
  | sign :: d :: ds =>
    if sign != '+' && sign != '-' then none
    else ((d :: ds).mapM Text.asciiDigit?).map fun digits => (sign == '+', Text.ofDigits digits)
  | _ => none

/-- The steps of a store after moving up to a target. Moving up never takes a step back. -/
def upgrade (steps : Nat) (target : String) : Except MoveError Nat :=
  match steps? target with
  | some (up, n) =>
    if up && 0 < n && steps + n ≤ all.length then .ok (steps + n) else .error (.tooFar target n)
  | none =>
    match position? target with
    | some n => .ok (max steps n)
    | none => .error (.unknownRevision target)

/-- The steps of a store after moving down to a target. -/
def downgrade (steps : Nat) (target : String) : Except MoveError Nat :=
  match steps? target with
  | some (up, n) =>
    if !up && 0 < n && n ≤ steps then .ok (steps - n) else .error (.tooFar target n)
  | none =>
    match position? target with
    | some n => if n ≤ steps then .ok n else .error (.notBelow target)
    | none => .error (.unknownRevision target)

end Migration

end CatalogSearch
