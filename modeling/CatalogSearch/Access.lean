import CatalogSearch.Principal
import CatalogSearch.Settings
import CatalogSearch.Token

/-!
# Access

Who may search. Whoever comes without a token, with a token that is not accepted or with one that
names no subject is not known; whoever is known but has none of the roles asked for is not allowed.
-/

namespace CatalogSearch

/-- Why access is denied. -/
inductive Denial where
  | missingToken
  | invalidToken
  | noSubject
  | forbidden
  deriving DecidableEq, Repr

namespace Denial

def status : Denial → Nat
  | forbidden => 403
  | _ => 401

def message : Denial → String
  | missingToken => "Missing authorization token"
  | invalidToken => "Invalid token"
  | noSubject => "Token has no subject"
  | forbidden => "Forbidden"

end Denial

/-- Why there is no principal: a denial, or a token that could not be checked at all. -/
inductive AccessError where
  | denied (d : Denial)
  | unchecked (e : TokenError)

/-- Whether an error with a token means that the token is refused. A secret that is no key, a
time that is no number and claims that nest too deep are faults instead. -/
def TokenError.isRefusal : TokenError → Bool
  | problem _ => true
  | claims (.time _) => false
  | claims _ => true
  | key _ => false
  | tooDeep _ => false

def authenticate (settings : Settings) (now : Int) (token : Option String) :
    Except AccessError Principal :=
  match token with
  | none => .error (.denied .missingToken)
  | some t =>
    match Token.read settings.secret now t with
    | .error e => .error (if e.isRefusal then .denied .invalidToken else .unchecked e)
    | .ok claims =>
      if (Principal.claim claims "sub").isTruthy then .ok claims
      else .error (.denied .noSubject)

/-- Lets a principal pass who has one of some roles. -/
def requireRole (roles : List String) (p : Principal) : Except AccessError Principal :=
  if Principal.isOneOf roles (p.claim "role") then .ok p else .error (.denied .forbidden)

end CatalogSearch
