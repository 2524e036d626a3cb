import CatalogSearch.Proofs.Log
import CatalogSearch.Proofs.Visibility

/-!
# Filters on the soft-delete flag

Whoever is no administrator may send clauses on `active`, but they do nothing: they are dropped
before anything is compiled, and the condition that documents are active is required with them and
without them. So every search of theirs is the search of the request without these clauses
(`Entity.search_withoutActive`), and two requests that differ in these clauses only cannot be told
apart by what they send or by what they come to.
-/

namespace CatalogSearch

def SearchRequest.withoutActive (request : SearchRequest) : SearchRequest :=
  { request with criteria := request.criteria.filter (!·.isOnActive) }

theorem SearchRequest.withoutActive_congr {request request' : SearchRequest}
    (hpage : request.page = request'.page) (hsize : request.pageSize = request'.pageSize)
    (hclauses : request.criteria.filter (!·.isOnActive)
      = request'.criteria.filter (!·.isOnActive)) :
    request.withoutActive = request'.withoutActive := by
  rw [withoutActive, withoutActive, hpage, hsize, hclauses]

namespace Entity

variable {p : Principal}

theorem request_allowDocuments (hadmin : p.isAdmin = false) (request : SearchRequest) :
    (allowDocuments request p).request = request.withoutActive := by
  obtain ⟨hcriteria, -⟩ := allowDocuments_of_regular hadmin request
  have hwindow : (allowDocuments request p).request.page = request.page ∧
      (allowDocuments request p).request.pageSize = request.pageSize := by
    rw [allowDocuments, hadmin]
    split
    · exact ⟨rfl, rfl⟩
    · exact ⟨rfl, rfl⟩
  rw [SearchRequest.withoutActive, ← hcriteria, ← hwindow.1, ← hwindow.2]

theorem search_withoutActive (hadmin : p.isAdmin = false) (settings : Settings)
    (request : SearchRequest) :
    (documents.search settings request p).Agree
      (documents.serve settings request.withoutActive [activeOnly]) := by
  have hallowed : documents.allow request p = .ok (allowDocuments request p) := rfl
  rw [← request_allowDocuments hadmin, ← (allowDocuments_of_regular hadmin request).2]
  exact search_agrees hallowed settings

/-- For whoever is no administrator, clauses on `active` are inert. Two requests for the same page
that are equal without these clauses send the same queries and come to the same, whatever the store
answers. -/
theorem active_inert (hrole : p.claim "role" ≠ .text Principal.adminRole) (settings : Settings)
    {request request' : SearchRequest} (hpage : request.page = request'.page)
    (hsize : request.pageSize = request'.pageSize)
    (hclauses : request.criteria.filter (!·.isOnActive)
      = request'.criteria.filter (!·.isOnActive)) :
    (documents.search settings request p).Agree (documents.search settings request' p) := by
  have hadmin := Principal.isAdmin_eq_false hrole
  have hsame := SearchRequest.withoutActive_congr hpage hsize hclauses
  have hfirst := search_withoutActive hadmin settings request
  have hsecond := search_withoutActive hadmin settings request'
  rw [hsame] at hfirst
  exact hfirst.trans hsecond.symm

/-- The user 7 asks for deleted documents, in vain, before and behind a clause on the title. -/
theorem active_inert_titles :
    Principal.claim [("sub", .text "7"), ("role", .text "regular_user")] "role"
        ≠ .text Principal.adminRole ∧
      (documents.search {}
          { criteria :=
              [{ field := "active", condition := "EQ", value := .bool false },
                { field := "title", condition := "FRAGMENT", value := .text "map" },
                { field := "active", condition := "BOGUS", value := .list [], negate := true }]
            page := 2 }
          [("sub", .text "7"), ("role", .text "regular_user")]).Agree
        (documents.search {}
          { criteria := [{ field := "title", condition := "FRAGMENT", value := .text "map" }]
            page := 2 }
          [("sub", .text "7"), ("role", .text "regular_user")]) := by
  have hrole : Principal.claim [("sub", .text "7"), ("role", .text "regular_user")] "role"
      ≠ .text Principal.adminRole := by
    intro hadmin
    have htext : Text.ofString "regular_user" = Text.ofString Principal.adminRole :=
      Value.text.inj hadmin
    exact absurd htext (by decide)
  exact ⟨hrole, active_inert hrole {} rfl rfl rfl⟩

end Entity

end CatalogSearch
