/-!
# White space

Two sets of blank characters. `isWhiteSpace` is the Unicode property White_Space; `isBlank` adds the
four information separators U+001C to U+001F, which old teletype text counts as blank too. Neither
holds the zero-width space U+200B or the byte order mark U+FEFF.
-/

namespace CatalogSearch.Text

/-- The characters with the Unicode property White_Space. -/
def isWhiteSpace (c : Char) : Bool :=
  let n := c.toNat
  (0x09 ≤ n && n ≤ 0x0d) || n == 0x20 || n == 0x85 || n == 0xa0 || n == 0x1680 ||
    (0x2000 ≤ n && n ≤ 0x200a) || n == 0x2028 || n == 0x2029 || n == 0x202f || n == 0x205f ||
    n == 0x3000

/-- White space or one of the four information separators. -/
def isBlank (c : Char) : Bool :=
  isWhiteSpace c || (0x1c ≤ c.toNat && c.toNat ≤ 0x1f)

/-- Drops the characters of a class at both ends. -/
def stripChars (p : Char → Bool) (cs : List Char) : List Char :=
  ((cs.dropWhile p).reverse.dropWhile p).reverse

def trim (s : String) : String :=
  String.ofList (stripChars isBlank s.toList)

end CatalogSearch.Text
