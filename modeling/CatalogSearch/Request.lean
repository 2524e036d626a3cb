import CatalogSearch.Value

/-!
# Search requests

What a client asks for: filter clauses, all of which must hold, and a page of the result.
-/

namespace CatalogSearch

/-- A filter clause as a client sends it. The condition and the value are taken as they come: a
clause that makes no sense is left out of the search later, with a notice. -/
structure Clause where
  field : Text
  condition : Text
  value : Value := .null
  negate : Bool := false

structure SearchRequest where
  criteria : List Clause := []
  page : Int := 1
  pageSize : Int := 10

end CatalogSearch
