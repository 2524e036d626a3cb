import CatalogSearch.Digest.Sha256

/-!
# Keyed hashes

HMAC over SHA-256: the message is hashed behind one masked copy of the key, and the result once more
behind another.
-/

namespace CatalogSearch.Hmac

/-- The key as one block: a key longer than a block is replaced by its hash. -/
def keyBlock (key : List UInt8) : List UInt8 :=
  let short := if key.length > 64 then Sha256.hash key else key
  short ++ List.replicate (64 - short.length) 0

/-- The thirty-two bytes that authenticate a message under a key. -/
def tag (key message : List UInt8) : List UInt8 :=
  let block := keyBlock key
  Sha256.hash (block.map (· ^^^ 0x5c) ++ Sha256.hash (block.map (· ^^^ 0x36) ++ message))

end CatalogSearch.Hmac
