import CatalogSearch.Operator
import CatalogSearch.Value.Display

/-!
# Notices

Everything that a search writes to its log. A clause that is left out is never an error of the
request; it is left out with a notice that says why.

A notice can always be written. The limits of a runtime on showing the values in it, on how deep they
nest and on the digits of their integers, are left out.
-/

namespace CatalogSearch

inductive Level where
  | info
  | warning
  | error
  deriving DecidableEq, Repr

/-- One record of the log. -/
inductive Notice where
  | unknownCondition (field condition : Text)
  | notIdentifier (field : Text)
  /-- A clause whose value has the wrong shape. -/
  | misfit (field : String) (value : Value) (operator : Operator)
  /-- A criterion whose value has the wrong shape, found when no handler took it. -/
  | unfit (field : String) (value : Value) (operator : Operator)
  | nonScalarMembers (field : String)
  | unsupported (field : String) (operator : Operator)
  /-- A criterion that its handler declined, on a field that is no column. -/
  | declined (field : String) (operator : Operator)
  | unlisted (field table : String)
  /-- A page size that was not positive, with the size used instead. -/
  | pageSizeCorrected (given : Value) (used : Int)
  | queryFailed (sql : String) (parameters : List Value)
  /-- A filter on the soft-delete flag from someone who may not use it. -/
  | activeIgnored (subject : Value)
  | malformedPaths (document stored : Value)
  /-- A search that failed in the store, on behalf of a user. -/
  | searchFailed (area : String) (subject : Value)

namespace Notice

def level : Notice → Level
  | pageSizeCorrected .. => .info
  | queryFailed .. => .error
  | searchFailed .. => .error
  | _ => .warning

/-- The name of the log that a record goes to: that of the service for a failed search, else that of
the searches. -/
def logger : Notice → String
  | searchFailed .. => "archive_search.api"
  | _ => "archive_search.search"

def text : Notice → Text
  | unknownCondition f c =>
    "skipping criterion on " ++ f.quoted ++ ": unknown condition " ++ c.quoted
  | notIdentifier f => "skipping criterion: field " ++ f.quoted ++ " is not a plain identifier"
  | misfit f v op =>
    "skipping criterion on " ++ Text.quoted f ++ ": value " ++ v.shown ++
      " does not fit condition " ++ op.name
  | unfit f v op =>
    "skipping criterion on " ++ Text.quoted f ++ ": value " ++ v.shownSettled ++ " does not fit " ++
      op.name
  | nonScalarMembers f => "skipping ANY_OF on " ++ Text.quoted f ++ ": non-scalar members"
  | unsupported f op =>
    "skipping criterion on " ++ Text.quoted f ++ ": unsupported operator " ++ op.name
  | declined f op =>
    "skipping criterion on " ++ Text.quoted f ++ ": handler declined " ++ op.name ++
      " and the field is not a plain column"
  | unlisted f t =>
    "field " ++ Text.quoted f ++ " on " ++ t ++
      " is neither whitelisted nor handled; compiling as-is"
  | pageSizeCorrected v n => "correcting page size " ++ v.display ++ " to " ++ toString n
  | queryFailed sql ps =>
    "search query failed sql=" ++ Text.quoted sql ++ " parameters=" ++ Value.shownList ps
  | activeIgnored subject =>
    "non-admin " ++ subject.display ++ " filtered documents by 'active'; filter ignored"
  | malformedPaths document stored =>
    "document " ++ document.display ++ " has malformed descriptive signatures " ++ stored.shown
  | searchFailed area subject => area ++ " search failed for user " ++ subject.display

end Notice

end CatalogSearch
