import CatalogSearch.Value.Integer
import CatalogSearch.Value.Order

/-!
# Claims

The checks on what a token claims, in the order in which they are made: when it was issued, from
when and until when it is valid, for whom it is meant, whose it is, and its id.
-/

namespace CatalogSearch

/-- What is wrong with a claim. -/
inductive ClaimProblem where
  | issuedAtUnreadable
  | notBeforeUnreadable
  | expirationUnreadable
  | notYetValid
  | audienceMalformed
  | audienceRefused
  | subjectNotText
  | idNotText
  | accessHashUnchecked
  deriving DecidableEq, Repr

def ClaimProblem.message : ClaimProblem → String
  | issuedAtUnreadable => "Issued At claim (iat) must be an integer."
  | notBeforeUnreadable => "Not Before claim (nbf) must be an integer."
  | expirationUnreadable => "Expiration Time claim (exp) must be an integer."
  | notYetValid => "The token is not yet valid (nbf)"
  | audienceMalformed => "Invalid claim format in token"
  | audienceRefused => "Invalid audience"
  | subjectNotText => "Subject must be a string."
  | idNotText => "JWT ID must be a string."
  | accessHashUnchecked =>
    "No access_token provided to compare against at_hash claim."

/-- Why claims are not accepted. -/
inductive ClaimError where
  | problem (p : ClaimProblem)
  | expired
  /-- A time that is no number at all. -/
  | time (e : IntegerError)
  deriving DecidableEq, Repr

namespace Claims

/-- A time, if it is claimed. -/
def time? (claims : Row) (name : Text) (unreadable : ClaimProblem) :
    Except ClaimError (Option Int) :=
  match Row.get? claims name with
  | none => .ok none
  | some v =>
    match v.toInteger with
    | .ok i => .ok (some i)
    | .error .unbounded => .error (.time .unbounded)
    | .error (.wrongKind kind) => .error (.time (.wrongKind kind))
    | .error _ => .error (.problem unreadable)

/-- The problem with an audience: whoever reads the token is not in it. -/
def audienceProblem : Value → ClaimProblem
  | .text _ => .audienceRefused
  | .list items => if items.all Value.isText then .audienceRefused else .audienceMalformed
  | _ => .audienceMalformed

/-- Checks that a claim is a text if it is made. -/
def checkText (claims : Row) (name : Text) (p : ClaimProblem) :
    Except ClaimError Unit :=
  match Row.get? claims name with
  | none => .ok ()
  | some v => if v.isText then .ok () else .error (.problem p)

/-- Checks the claims at a time. -/
def check (now : Int) (claims : Row) : Except ClaimError Unit := do
  let _ ← time? claims "iat" .issuedAtUnreadable
  if let some start ← time? claims "nbf" .notBeforeUnreadable then
    if now < start then throw (.problem .notYetValid)
  if let some stop ← time? claims "exp" .expirationUnreadable then
    if stop < now then throw .expired
  if let some audience := Row.get? claims "aud" then throw (.problem (audienceProblem audience))
  checkText claims "sub" .subjectNotText
  checkText claims "jti" .idNotText
  if (Row.get? claims "at_hash").isSome then throw (.problem .accessHashUnchecked)

end Claims

end CatalogSearch
