import CatalogSearch.Text.Blank

/-!
# Settings

What an installation can set: the page sizes, the secret that signs tokens, and the web origins that
may call the service.
-/

namespace CatalogSearch

/-- The settings of an installation. -/
structure Settings where
  /-- The page size in place of one that is not positive. -/
  defaultPageSize : Int := 10
  maxPageSize : Int := 1000
  /-- The secret that signs tokens. -/
  secret : String := "change_me"
  /-- The web origins that may call the service, with commas between them. -/
  origins : String := "http://localhost:3000"
  deriving Repr

namespace Settings

/-- The secret to use where one may be given. An empty one is none. -/
def secretOr (settings : Settings) (given : Option String) : String :=
  (given.filter (!·.isEmpty)).getD settings.secret

@[simp] theorem secretOr_none (settings : Settings) : settings.secretOr none = settings.secret := rfl

/-- The origins one by one, without blanks around them; empty ones are dropped. -/
def originList (settings : Settings) : List String :=
  ((settings.origins.toList.splitOnP (· == ',')).map fun cs =>
    String.ofList (Text.stripChars Text.isBlank cs)).filter (!·.isEmpty)

end Settings

end CatalogSearch
