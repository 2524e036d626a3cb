import CatalogSearch.Entity

/-!
# Visibility

The predicates that a search must satisfy whatever the request says. Documents that were deleted
softly are shown to an administrator only, and only when the request filters on `active`; anyone
else's filters on that field are dropped. Notes are shown to an administrator, to their owner, and
to everyone when they are shared.
-/

namespace CatalogSearch

/-- A request as it is allowed, with the required predicates and the notices on the way. -/
structure Allowed where
  request : SearchRequest
  required : List (String → Fragment) := []
  notices : List Notice := []

/-- Only documents that are not deleted. -/
def activeOnly (tableAlias : String) : Fragment :=
  ⟨.compare (tableAlias ++ ".active") .equal (.bool true), none⟩

/-- Only notes that a user owns and notes that are shared. Ids are positive, so nobody owns a note
without a user. -/
def ownedOrShared (user : Option Int) (tableAlias : String) : Fragment :=
  ⟨.either (.compare (tableAlias ++ ".owner_user_id") .equal (.int (user.getD (-1))))
    (.compare (tableAlias ++ ".shared") .equal (.bool true)), none⟩

def Clause.isOnActive (c : Clause) : Bool := c.field == "active"

def allowDocuments (request : SearchRequest) (p : Principal) : Allowed :=
  if request.criteria.any Clause.isOnActive then
    if p.isAdmin then ⟨request, [], []⟩
    else
      ⟨{ request with criteria := request.criteria.filter (!·.isOnActive) }, [activeOnly],
        [.activeIgnored (p.claim "sub")]⟩
  else ⟨request, [activeOnly], []⟩

def allowNotes (request : SearchRequest) (p : Principal) : Except Failure Allowed :=
  if p.isAdmin then .ok ⟨request, [], []⟩
  else
    match p.userId? with
    | .ok user => .ok ⟨request, [ownedOrShared user], []⟩
    | .error e => .error (.integer e)

/-- A search as it is allowed to someone. -/
def Entity.allow (request : SearchRequest) (p : Principal) : Entity → Except Failure Allowed
  | documents => .ok (allowDocuments request p)
  | notes => allowNotes request p
  | elements => .ok ⟨request, [], []⟩
  | logs => .ok ⟨request, [], []⟩

end CatalogSearch
