import CatalogSearch.Value

/-!
# Issues

What is wrong with a request that does not have the right form. An issue has a place, given by the
names and positions that lead to it, a kind, and the value that was found there. A request is
refused with all its issues, in the order of its fields.
-/

namespace CatalogSearch

/-- One step into a value. -/
inductive Step where
  | name (field : String)
  | index (position : Nat)
  deriving DecidableEq, Repr

/-- What is wrong at a place. -/
inductive IssueKind where
  | missing
  /-- No object, where one for a named form was expected. -/
  | notForm (form : String)
  /-- No object, where anything with fields was expected. -/
  | notFields
  | notList
  | notText
  | notInteger
  | unreadableInteger
  | oversizedInteger
  | fractional
  | notFinite
  | notBoolean
  | unreadableBoolean
  | notJson
  deriving DecidableEq, Repr

def IssueKind.code : IssueKind → String
  | missing => "missing"
  | notForm _ => "model_type"
  | notFields => "model_attributes_type"
  | notList => "list_type"
  | notText => "string_type"
  | notInteger => "int_type"
  | unreadableInteger => "int_parsing"
  | oversizedInteger => "int_parsing_size"
  | fractional => "int_from_float"
  | notFinite => "finite_number"
  | notBoolean => "bool_type"
  | unreadableBoolean => "bool_parsing"
  | notJson => "json_invalid"

def IssueKind.message : IssueKind → String
  | missing => "Field required"
  | notForm form => "Input should be a valid dictionary or instance of " ++ form
  | notFields => "Input should be a valid dictionary or object to extract fields from"
  | notList => "Input should be a valid list"
  | notText => "Input should be a valid string"
  | notInteger => "Input should be a valid integer"
  | unreadableInteger =>
    "Input should be a valid integer, unable to parse string as an integer"
  | oversizedInteger =>
    "Unable to parse input string as an integer, exceeded maximum size"
  | fractional => "Input should be a valid integer, got a number with a fractional part"
  | notFinite => "Input should be a finite number"
  | notBoolean => "Input should be a valid boolean"
  | unreadableBoolean => "Input should be a valid boolean, unable to interpret input"
  | notJson => "JSON decode error"

/-- Something wrong at a place. For a field that is missing, `input` is the object without it. -/
structure Issue where
  path : List Step
  kind : IssueKind
  input : Value
  deriving Repr

/-- The issue seen from one step further out. -/
def Issue.under (step : Step) (issue : Issue) : Issue := { issue with path := step :: issue.path }

/-- A part of a request, or all that is wrong with it. -/
abbrev Checked (α : Type) := Except (List Issue) α

namespace Checked

def issue {α : Type} (kind : IssueKind) (input : Value) : Checked α := .error [⟨[], kind, input⟩]

/-- The part of a request behind a step. -/
def under {α : Type} (step : Step) : Checked α → Checked α :=
  Except.mapError (·.map (Issue.under step))

/-- Puts a function and its argument together; the issues of both count. -/
def app {α β : Type} : Checked (α → β) → Checked α → Checked β
  | .ok f, .ok a => .ok (f a)
  | .ok _, .error issues => .error issues
  | .error issues, .ok _ => .error issues
  | .error issues, .error more => .error (issues ++ more)

/-- All items of a list from a position on; the issues of all count. -/
def all {α β : Type} (f : α → Checked β) : Nat → List α → Checked (List β)
  | _, [] => .ok []
  | n, a :: as => app (((f a).under (.index n)).map List.cons) (all f (n + 1) as)

end Checked

end CatalogSearch
