import CatalogSearch.Text.Utf16
import CatalogSearch.Text.Utf8

/-!
# Encodings of JSON

JSON text in bytes says by its first bytes how it is encoded: by a byte order mark, or by where its
zero bytes stand, because JSON begins with an ASCII character.
-/

namespace CatalogSearch.Json

inductive Encoding where
  | utf8
  | utf16 (lowFirst : Bool)
  | utf32 (lowFirst : Bool)
  deriving DecidableEq, Repr

namespace Encoding

/-- The encoding of bytes without a byte order mark. -/
def ofZeros : List UInt8 → Encoding
  | 0 :: b :: _ :: _ :: _ => if b = 0 then .utf32 false else .utf16 false
  | _ :: 0 :: c :: d :: _ => if c = 0 ∧ d = 0 then .utf32 true else .utf16 true
  | [0, _] => .utf16 false
  | [_, 0] => .utf16 true
  | _ => .utf8

/-- The encoding of some bytes, and the bytes behind the byte order mark. -/
def split : List UInt8 → Encoding × List UInt8
  | 0 :: 0 :: 0xfe :: 0xff :: rest => (.utf32 false, rest)
  | 0xff :: 0xfe :: 0 :: 0 :: rest => (.utf32 true, rest)
  | 0xfe :: 0xff :: rest => (.utf16 false, rest)
  | 0xff :: 0xfe :: rest => (.utf16 true, rest)
  | 0xef :: 0xbb :: 0xbf :: rest => (.utf8, rest)
  | bytes => (ofZeros bytes, bytes)

def decode? : Encoding → List UInt8 → Option Text
  | utf8, bytes =>
    match Text.Utf8.decode bytes with
    | .ok s => some s
    | .error _ => none
  | utf16 lowFirst, bytes => Utf16.decode? lowFirst bytes
  | utf32 lowFirst, bytes => Utf32.decode? lowFirst bytes

end Encoding

/-- The text in some bytes, if they are well encoded. -/
def textOfBytes? (bytes : List UInt8) : Option Text :=
  (Encoding.split bytes).1.decode? (Encoding.split bytes).2

end CatalogSearch.Json
