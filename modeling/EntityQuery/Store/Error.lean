/-!
# Store errors

What a store may answer instead of a result.  The query layer hands these on as
they are.
-/

namespace EntityQuery

/-- A failure of a store. -/
inductive StoreError where
  /-- The store could not be reached. -/
  | unavailable
  /-- A query holds literal values without allowing them. -/
  | literalsNotAllowed
  /-- The query text is refused. -/
  | invalidQuery (reason : String)
  /-- A write was tried under a key without an id. -/
  | incompleteKey (key : String)
  /-- There is an entity under the key already. -/
  | alreadyExists (key : String)
  /-- Any other failure. -/
  | backend (reason : String)
deriving DecidableEq, Repr

namespace StoreError

/-- What to tell about the failure. -/
def message : StoreError → String
  | .unavailable => "Store unavailable"
  | .literalsNotAllowed => "Literal values are not allowed in this query"
  | .invalidQuery reason => "Invalid query: " ++ reason
  | .incompleteKey key => "Incomplete key: " ++ key
  | .alreadyExists key => "Entity already exists: " ++ key
  | .backend reason => "Backend error: " ++ reason

end StoreError

end EntityQuery
