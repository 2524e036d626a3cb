import CatalogSearch.Proofs.Json.Objects
import CatalogSearch.Proofs.Text.Encodings
import CatalogSearch.Token
import Mathlib.Data.List.TakeWhile

/-!
# Signed tokens

A token that was written comes apart into what it was written from: its three parts hold no points,
each is read back from Base64, and the header names the algorithm. What is left of reading it is the
search for the key and the reading of the claims (`Token.exists_verified_eq`). A secret that stands
for itself finds its own tag (`Token.exists_verified_ok`).
-/

namespace CatalogSearch

/-! ### Secrets -/

namespace Key

/-- Read as a list of keys, a secret is itself and no other. -/
def StandsForItself (secret : String) : Prop := members secret = .ok [.text secret]

theorem standsForItself_of_not_json {secret : String} {e : Json.ReadError}
    (h : Json.readWith (fun n => .ok (numeralText n)) Json.depthLimit secret = .error e) :
    StandsForItself secret := by
  rw [StandsForItself, members, h]

theorem ofText_of_not_isAsymmetric {secret : String} (h : isAsymmetric secret.toList = false) :
    ofText secret = .ok (Text.Utf8.encode secret) := by
  rw [ofText, Text.string?_ofString]
  dsimp only
  rw [if_neg (by rw [h]; decide)]

end Key

namespace Token

/-! ### The parts of a token -/

theorem bytes_append (cs ds : List Char) : bytes (cs ++ ds) = bytes cs ++ bytes ds := by
  rw [bytes, bytes, bytes, Text.Utf8.encode_ofList, Text.Utf8.encode_ofList,
    Text.Utf8.encode_ofList, List.flatMap_append]

theorem bytes_point_cons (cs : List Char) : bytes ('.' :: cs) = 46 :: bytes cs := by
  rw [bytes, bytes, Text.Utf8.encode_ofList, Text.Utf8.encode_ofList, List.flatMap_cons]
  rfl

theorem split?_eq {head tag : List UInt8} (hhead : 46 ∉ head) (htag : 46 ∉ tag)
    (payload : List UInt8) :
    split? (head ++ 46 :: payload ++ 46 :: tag) = some (head, payload, tag) := by
  have hinside : ∀ part : List UInt8, 46 ∉ part → ∀ b ∈ part, (!(b == 46)) = true := by
    intro part hpart b hb
    rw [Bool.not_eq_true', beq_eq_false_iff_ne]
    rintro rfl
    exact hpart hb
  have hpoint : (!((46 : UInt8) == 46)) = false := by decide
  -- the last point is the first one from behind
  have htag' := hinside tag.reverse (by rwa [List.mem_reverse])
  have hreverse : (head ++ 46 :: payload ++ 46 :: tag).reverse
      = tag.reverse ++ 46 :: (head ++ 46 :: payload).reverse := by
    rw [List.reverse_append, List.reverse_cons, List.append_assoc, List.singleton_append]
  rw [split?, hreverse, List.dropWhile_append_of_pos htag',
    List.dropWhile_cons_of_neg (by rw [hpoint]; decide), List.takeWhile_append_of_pos htag',
    List.takeWhile_cons_of_neg (by rw [hpoint]; decide)]
  dsimp only
  rw [List.reverse_reverse, List.append_nil, List.reverse_reverse,
    List.dropWhile_append_of_pos (hinside head hhead),
    List.dropWhile_cons_of_neg (by rw [hpoint]; decide),
    List.takeWhile_append_of_pos (hinside head hhead),
    List.takeWhile_cons_of_neg (by rw [hpoint]; decide), List.append_nil]

/-! ### Reading what was written -/

theorem readObject_write {levels : Nat} {claims : Row}
    (h : Json.ReadsBack levels (.object claims)) (hlevels : levels ≤ Json.depthLimit) :
    readObject (Text.Utf8.encode (Json.write (.object claims))) = .ok claims := by
  rw [readObject, Text.Utf8.decode_encode]
  dsimp only
  rw [h.read_write hlevels]

theorem readsBack_header : Json.ReadsBack 1 header := by
  apply Json.readsBack_object
  · intro f hf
    simp only [List.mem_cons, List.not_mem_nil, or_false] at hf
    obtain rfl | rfl := hf
    · exact ⟨Text.unpaired_ofString _, Json.readsBack_text (Text.unpaired_ofString _)⟩
    · exact ⟨Text.unpaired_ofString _, Json.readsBack_text (Text.unpaired_ofString _)⟩
  · decide

theorem readObject_header :
    readObject (Text.Utf8.encode (Json.write header))
      = .ok [("alg", .text algorithm), ("typ", .text "JWT")] :=
  readObject_write readsBack_header (by decide)

/-- The search for a key and the reading of the claims, once the form of a token is checked. -/
def verifiedWith (reading : String) (message tag payload : List UInt8) : Except TokenError Row := do
  let keys ← (Key.members reading).mapError .key
  let genuine ← (isGenuine message tag keys).mapError .key
  if !genuine then throw (.problem .forged)
  (readObject payload).mapError (.ofObject .payload)

theorem decode_segment (v : Value) :
    Text.Base64Url.decode (bytes (segment v)) = some (Text.Utf8.encode (Json.write v)) :=
  Text.Base64Url.decode_encode _

/-- What stands before the tag of a written token. -/
def signed (claims : Row) : List Char := segment header ++ '.' :: segment (.object claims)

theorem bytes_signed (claims : Row) :
    bytes (signed claims) = bytes (segment header) ++ 46 :: bytes (segment (.object claims)) := by
  rw [signed, bytes_append, bytes_point_cons]

theorem verified_of_split {token : String} {claims : Row} {tag : List UInt8}
    (hsplit : split? (Text.Utf8.encode token)
      = some (bytes (segment header), bytes (segment (.object claims)),
          bytes (Text.Base64Url.encode tag))) (reading : String) :
    verified reading token
      = verifiedWith reading (bytes (signed claims)) tag
          (Text.Utf8.encode (Json.write (.object claims))) := by
  have htag : Text.Base64Url.decode (bytes (Text.Base64Url.encode tag)) = some tag :=
    Text.Base64Url.decode_encode tag
  rw [verified, hsplit]
  dsimp only
  rw [decode_segment]
  dsimp only
  rw [readObject_header, decode_segment, htag, bytes_signed]
  rfl

/-- A written token has the right form, whatever it claims and whatever it is read with: it
holds a message with the tag of the message, and the text of its claims. -/
theorem exists_verified_eq {secret : String} {key : List UInt8} (hkey : Key.ofText secret = .ok key)
    (claims : Row) :
    ∃ token, write secret claims = .ok token ∧ ∀ reading,
      verified reading token
        = verifiedWith reading (bytes (signed claims)) (Hmac.tag key (bytes (signed claims)))
            (Text.Utf8.encode (Json.write (.object claims))) := by
  refine ⟨String.ofList (signed claims ++
    '.' :: Text.Base64Url.encode (Hmac.tag key (bytes (signed claims)))), ?_, ?_⟩
  · rw [write, hkey]
    rfl
  · intro reading
    apply verified_of_split
    rw [← bytes, bytes_append, bytes_point_cons, bytes_signed]
    exact split?_eq (Text.Base64Url.point_not_mem _) (Text.Base64Url.point_not_mem _) _

theorem isGenuine_tag {secret : String} {key : List UInt8} (hkey : Key.ofText secret = .ok key)
    (message : List UInt8) :
    isGenuine message (Hmac.tag key message) [.text secret] = .ok true := by
  have hmember : Key.ofValue (.text secret) = .ok key := hkey
  rw [isGenuine, hmember]
  simp only [bind, Except.bind, BEq.rfl, if_true]
  rfl

/-- A written token is verified with its secret, if that stands for itself and its claims are
read back. -/
theorem exists_verified_ok {secret : String} {key : List UInt8} (hkey : Key.ofText secret = .ok key)
    (hitself : Key.StandsForItself secret) {levels : Nat} {claims : Row}
    (h : Json.ReadsBack levels (.object claims)) (hlevels : levels ≤ Json.depthLimit) :
    ∃ token, write secret claims = .ok token ∧ verified secret token = .ok claims := by
  obtain ⟨token, hwrite, hverified⟩ := exists_verified_eq hkey claims
  refine ⟨token, hwrite, ?_⟩
  rw [hverified, verifiedWith, hitself, readObject_write h hlevels]
  simp only [bind, Except.bind, Except.mapError, isGenuine_tag hkey]
  rfl

end Token

end CatalogSearch
