import CatalogSearch.Digest.Hmac
import CatalogSearch.Json.Writer
import CatalogSearch.Settings
import CatalogSearch.Token.Claims
import CatalogSearch.Token.Key
import CatalogSearch.Token.Lifetime
import CatalogSearch.Value.Order

/-!
# Tokens

A token carries claims that only a holder of the secret can have written: a header, the claims and
an HMAC-SHA-256 tag over both, each in Base64 and with points between them. Issuing a token stamps a
payload with the times of issue and of expiry and signs it. Reading a token checks its form, then its
tag, then its claims.
-/

namespace CatalogSearch

/-- Why bytes are no JSON object. -/
inductive ObjectProblem where
  | notUtf8 (e : Text.Utf8Error)
  | notJson (t : Text) (e : Json.ReadError)
  | notObject

def ObjectProblem.message : ObjectProblem → String
  | notUtf8 e => e.message
  | notJson t e => e.message t
  | notObject => "must be a json object"

/-- What is wrong with the form or the tag of a token. -/
inductive TokenProblem where
  | segments
  | header (p : ObjectProblem)
  | payloadPadding
  | tagPadding
  | noAlgorithm
  | otherAlgorithm
  | forged
  | payload (p : ObjectProblem)

def TokenProblem.message : TokenProblem → String
  | segments => "Not enough segments"
  | header p => "Invalid header string: " ++ p.message
  | payloadPadding => "Invalid payload padding"
  | tagPadding => "Invalid crypto padding"
  | noAlgorithm => "No algorithm was specified in the JWS header."
  | otherAlgorithm => "The specified alg value is not allowed"
  | forged => "Signature verification failed."
  | payload p => "Invalid payload string: " ++ p.message

/-- Why a token is not accepted. -/
inductive TokenError where
  | problem (p : TokenProblem)
  | claims (e : ClaimError)
  /-- The secret cannot be used. -/
  | key (p : KeyProblem)
  /-- An array or an object in the token is too deep. -/
  | tooDeep (inObject : Bool)

/-- Why a token is not issued. -/
inductive IssuanceError where
  | lifetime (e : LifetimeError)
  | key (p : KeyProblem)

def IssuanceError.message : IssuanceError → Text
  | lifetime e => e.message
  | key p => p.message

/-- The error for a problem with an object of a token. -/
def TokenError.ofObject (place : ObjectProblem → TokenProblem) : ObjectProblem → TokenError
  | .notJson _ (.tooDeep inObject) => .tooDeep inObject
  | p => .problem (place p)

namespace Token

def algorithm : String := "HS256"

/-- The header of every token that is written. -/
def header : Value := .object [("alg", .text algorithm), ("typ", .text "JWT")]

/-- JSON text in Base64. -/
def segment (v : Value) : List Char := Text.Base64Url.encode (Text.Utf8.encode (Json.write v))

def bytes (cs : List Char) : List UInt8 := Text.Utf8.encode (String.ofList cs)

def write (secret : String) (claims : Row) : Except KeyProblem String := do
  let key ← Key.ofText secret
  let signed := segment header ++ '.' :: segment (.object claims)
  return String.ofList (signed ++ '.' :: Text.Base64Url.encode (Hmac.tag key (bytes signed)))

/-- Claims with the time of issue and of expiry, in the place of such claims or at the end. -/
def stamped (issued expires : Int) (claims : Row) : Row :=
  Row.set (Row.set claims "iat" (.int issued)) "exp" (.int expires)

/-- A token for a payload that is good from now on for some seconds. The lifetime is looked at before
the secret. -/
def issue (settings : Settings) (secret : Option String) (now : Int) (seconds : Value)
    (payload : Row) : Except IssuanceError String := do
  let expires ← (Lifetime.expiry now seconds).mapError .lifetime
  (write (settings.secretOr secret) (stamped now expires payload)).mapError .key

/-- The object that bytes write as JSON. -/
def readObject (bytes : List UInt8) : Except ObjectProblem Row :=
  match Text.Utf8.decode bytes with
  | .error e => .error (.notUtf8 e)
  | .ok s =>
    match Json.read s with
    | .error e => .error (.notJson s e)
    | .ok (.object fields) => .ok fields
    | .ok _ => .error .notObject

/-- The three parts of a token: what stands before its first point, between that and its last
point, and after that. -/
def split? (token : List UInt8) : Option (List UInt8 × List UInt8 × List UInt8) :=
  let isPoint := fun b : UInt8 => b == 46
  match (token.reverse.dropWhile (!isPoint ·)) with
  | [] => none
  | _ :: before =>
    let tag := (token.reverse.takeWhile (!isPoint ·)).reverse
    let signed := before.reverse
    match signed.dropWhile (!isPoint ·) with
    | [] => none
    | _ :: payload => some (signed.takeWhile (!isPoint ·), payload, tag)

/-- Whether any key gives a message this tag; a member that is no key ends the search. -/
def isGenuine (message tag : List UInt8) : List Value → Except KeyProblem Bool
  | [] => .ok false
  | member :: more => do
    if Hmac.tag (← Key.ofValue member) message == tag then return true
    else isGenuine message tag more

/-- The claims of a token whose form and tag are right. -/
def verified (secret : String) (token : String) : Except TokenError Row := do
  let some (head, payload, tag) := split? (Text.Utf8.encode token) | throw (.problem .segments)
  let some headBytes := Text.Base64Url.decode head | throw (.problem .segments)
  let header ← (readObject headBytes).mapError (.ofObject .header)
  let some payloadBytes := Text.Base64Url.decode payload | throw (.problem .payloadPadding)
  let some tagBytes := Text.Base64Url.decode tag | throw (.problem .tagPadding)
  let given := (Row.get? header "alg").getD .null
  if !given.isTruthy then throw (.problem .noAlgorithm)
  if !given.same (.text algorithm) then throw (.problem .otherAlgorithm)
  let keys ← (Key.members secret).mapError .key
  let genuine ← (isGenuine (head ++ 46 :: payload) tagBytes keys).mapError .key
  if !genuine then throw (.problem .forged)
  (readObject payloadBytes).mapError (.ofObject .payload)

/-- Reads a token: the claims that it carries, if they hold now. -/
def read (secret : String) (now : Int) (token : String) :
    Except TokenError Row := do
  let claims ← verified secret token
  (Claims.check now claims).mapError .claims
  return claims

end Token

end CatalogSearch
