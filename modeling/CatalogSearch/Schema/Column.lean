import CatalogSearch.Value

/-!
# Columns

What a column of a table holds, and what the store and the service do with it.
-/

namespace CatalogSearch

inductive ColumnType where
  | integer
  | varchar (length : Nat)
  | text
  | boolean
  | timestamp
  deriving DecidableEq, Repr

def ColumnType.sql : ColumnType → String
  | integer => "INTEGER"
  | varchar n => "VARCHAR(" ++ toString n ++ ")"
  | text => "TEXT"
  | boolean => "BOOLEAN"
  | timestamp => "DATETIME"

/-- The value of a column that is left out when a row is written. -/
inductive ColumnDefault where
  | none
  | value (v : Value)
  | now

/-- A column that another one refers to. -/
structure Reference where
  target : String
  /-- What happens to the row when the one it refers to is deleted. -/
  onDelete : Option String := none

structure Column where
  name : String
  type : ColumnType
  nullable : Bool := false
  primaryKey : Bool := false
  unique : Bool := false
  indexed : Bool := false
  default : ColumnDefault := .none
  /-- Whether the column gets the time of each change. -/
  tracksChanges : Bool := false
  /-- The default that the store itself fills in. -/
  storeDefault : Option String := none
  reference : Option Reference := none

namespace Column

/-- A column of whole numbers that identifies a row. -/
def id (name : String) : Column := { name, type := .integer, primaryKey := true }

def required (name : String) (type : ColumnType) : Column := { name, type }

def optional (name : String) (type : ColumnType) : Column := { name, type, nullable := true }

/-- A column with an index that refers to another table. -/
def refers (name target : String) (nullable : Bool) : Column :=
  { name, type := .integer, nullable, indexed := true, reference := some ⟨target, none⟩ }

/-- A column of a link table; the link goes when the row that it refers to is deleted. -/
def link (name target : String) (indexed : Bool) : Column :=
  { name, type := .integer, primaryKey := true, indexed,
    reference := some ⟨target, some "CASCADE"⟩ }

def withDefault (c : Column) (v : Value) : Column := { c with default := .value v }

/-- The times of creation and of the last change. -/
def timestamps : List Column :=
  [{ name := "created_on", type := .timestamp, default := .now },
    { name := "modified_on", type := .timestamp, default := .now, tracksChanges := true }]

end Column

end CatalogSearch
