/-!
# Upper case

Upper-casing as far as plain ASCII text can come of it. Besides the ASCII letters, ten characters
have an upper-case form that is ASCII: the sharp s, the dotless i, the long s and the seven Latin
ligatures. Every other character is left as it stands: its upper-case form holds a character outside
ASCII, so it can never complete an ASCII word, cased or not.
-/

namespace CatalogSearch.Text

/-- The characters outside ASCII whose upper-case form is ASCII, with that form. -/
def asciiUppercaseForms : List (Char × String) :=
  [('ß', "SS"), ('ı', "I"), ('ſ', "S"), ('ﬀ', "FF"), ('ﬁ', "FI"), ('ﬂ', "FL"), ('ﬃ', "FFI"),
    ('ﬄ', "FFL"), ('ﬅ', "ST"), ('ﬆ', "ST")]

/-- The upper-case form of one character, which can be several characters long. -/
def uppercaseChar (c : Char) : List Char :=
  match asciiUppercaseForms.lookup c with
  | some form => form.toList
  | none => [c.toUpper]

def uppercase (s : String) : String :=
  String.ofList (s.toList.flatMap uppercaseChar)

end CatalogSearch.Text
