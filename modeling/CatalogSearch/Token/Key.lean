import CatalogSearch.Json.Reader
import CatalogSearch.Text.Base64Url
import CatalogSearch.Text.Utf8
import CatalogSearch.Value.Display
import CatalogSearch.Value.Order

/-!
# Signing keys

A secret signs tokens as the bytes of its text. For reading tokens, a secret that is JSON text of an
array or an object stands for several keys, so that a secret can be replaced while old tokens are
still in use. A text that holds the mark of a public key or of a certificate is no key: whoever
knows the public half could sign with it.
-/

namespace CatalogSearch

/-- Why something is no key. -/
inductive KeyProblem where
  | notText
  | asymmetric
  /-- A key object whose type is not that of a byte sequence. -/
  | wrongType (given : Value)
  /-- A key object whose bytes are no text. -/
  | noBytes (kind : String)
  /-- A key object whose bytes end within a group, with the number of characters that count. -/
  | unfinishedBytes (characters : Nat)
  /-- A text with half of a surrogate pair, which has no bytes. -/
  | loneHalf (t : Text)
  /-- Something other than a list of keys in its place. -/
  | noKeys (kind : String)
  deriving Repr

namespace KeyProblem

/-- Where the halves stand that keep a text from having bytes: the first of them, its position, and
how many come in a row. -/
def halves (t : Text) : CodePoint × Nat × Nat :=
  let rest := t.points.dropWhile (!·.isHalf)
  (rest.headD (.char '\x00'), t.points.length - rest.length, (rest.takeWhile (·.isHalf)).length)

def message : KeyProblem → Text
  | notText => "Expecting a string- or bytes-formatted key."
  | asymmetric =>
    "The specified key is an asymmetric key or x509 certificate and should not be used as an " ++
      "HMAC secret."
  | wrongType v => "Incorrect key type. Expected: 'oct', Received: " ++ v.display
  | noBytes kind => "'" ++ kind ++ "' object has no attribute 'encode'"
  | unfinishedBytes n =>
    if n % 4 = 1 then
      "Invalid base64-encoded string: number of data characters (" ++ toString n ++
        ") cannot be 1 more than a multiple of 4"
    else "Incorrect padding"
  | loneHalf t =>
    let (half, start, count) := halves t
    let place :=
      if count = 1 then
        " '" ++ String.ofList (Text.escape half.toNat) ++ "' in position " ++ toString start
      else "s in position " ++ toString start ++ "-" ++ toString (start + count - 1)
    "'utf-8' codec can't encode character" ++ place ++ ": surrogates not allowed"
  | noKeys kind => "'" ++ kind ++ "' object is not iterable"

end KeyProblem

namespace Key

/-- Whether a list occurs within another. -/
def occursIn (part : List Char) : List Char → Bool
  | [] => part.isEmpty
  | c :: cs => part.isPrefixOf (c :: cs) || occursIn part cs

/-- The marks of keys that are not secret. -/
def publicMarks : List String :=
  ["-----BEGIN PUBLIC KEY-----", "-----BEGIN RSA PUBLIC KEY-----", "-----BEGIN CERTIFICATE-----",
    "ssh-rsa"]

/-- Whether a text holds the mark of a key that is not secret. -/
def isAsymmetric (cs : List Char) : Bool := publicMarks.any fun mark => occursIn mark.toList cs

def ofText (t : Text) : Except KeyProblem (List UInt8) :=
  match t.string? with
  | none => .error (.loneHalf t)
  | some s => if isAsymmetric s.toList then .error .asymmetric else .ok (Text.Utf8.encode s)

/-- The bytes in a key object. -/
def ofEncoded : Value → Except KeyProblem (List UInt8)
  | .text t =>
    match t.string?.map Text.Utf8.encode with
    | none => .error (.loneHalf t)
    | some encoded =>
      match Text.Base64Url.decode encoded with
      | some bytes => .ok bytes
      | none => .error (.unfinishedBytes (Text.Base64Url.characters encoded))
  | v => .error (.noBytes v.kind)

/-- The key that a member of a key list is: a text, or an object with the encoded bytes. -/
def ofValue : Value → Except KeyProblem (List UInt8)
  | .text t => ofText t
  | .object fields =>
    let kind := (Row.get? fields "kty").getD .null
    if kind.same (.text "oct") then ofEncoded ((Row.get? fields "k").getD .null)
    else .error (.wrongType kind)
  | _ => .error .notText

/-- A number in a secret is its text, as it is written. -/
def numeralText (n : Json.Numeral) : Value :=
  let fraction := if n.fraction.isEmpty then [] else '.' :: n.fraction
  .text (String.ofList ((if n.negative then ['-'] else []) ++ n.whole ++ fraction ++ n.exponent))

/-- The members of a list of keys; a text in its place is a list of its characters, an object one of
its names. -/
def listed : Value → Except KeyProblem (List Value)
  | .list items => .ok items
  | .object keys => .ok (keys.map (.text ·.1))
  | .text t => .ok (t.points.map fun p => .text ⟨[p]⟩)
  | v => .error (.noKeys v.kind)

/-- The members of a secret as a list of keys. -/
def members (secret : String) : Except KeyProblem (List Value) :=
  match Json.readWith (fun n => .ok (numeralText n)) Json.depthLimit secret with
  | .error _ => .ok [.text secret]
  | .ok (.list items) => .ok items
  | .ok (.object fields) =>
    match Row.get? fields "keys" with
    | some keys => listed keys
    | none =>
      if (Row.get? fields "kty").isSome || fields.isEmpty then .ok [.object fields]
      else .ok (fields.map (·.2))
  | .ok v => .ok [v]

end Key

end CatalogSearch
