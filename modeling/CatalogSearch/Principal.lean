import CatalogSearch.Value.Integer

/-!
# Principals

Whoever searches is known by the claims of a token: a subject, which should be a user id, and a
role.
-/

namespace CatalogSearch

/-- The claims about whoever searches. -/
abbrev Principal := Row

namespace Principal

/-- The role that sees everything. -/
def adminRole : String := "admin"

/-- The role of everyone else. -/
def regularRole : String := "regular_user"

/-- A claim; null when it is not made. -/
def claim (p : Principal) (name : Text) : Value := (Row.get? p name).getD .null

/-- Whether a value is exactly one of some texts. -/
def isOneOf (names : List String) : Value → Bool
  | .text t => t.string?.any names.contains
  | _ => false

def isAdmin (p : Principal) : Bool := isOneOf [adminRole] (p.claim "role")

/-- The user id that the subject stands for, if it can be read as one. An infinite number is an
error. -/
def userId? (p : Principal) : Except IntegerError (Option Int) :=
  match (p.claim "sub").toInteger with
  | .ok i => .ok (some i)
  | .error .unbounded => .error .unbounded
  | .error _ => .ok none

end Principal

end CatalogSearch
