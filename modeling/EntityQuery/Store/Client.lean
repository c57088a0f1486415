import EntityQuery.Store.Entity
import EntityQuery.Store.Error

/-!
# Stores

What the query layer asks of a store.  A store is a state of some type `σ`, and
every request gives an answer and the next state.  Nothing else is assumed of a
store: it may answer what it likes.
-/

namespace EntityQuery

/-- A query as a store receives it. -/
structure StoreQuery where
  gql : String
  /-- Whether values may stand in the text. -/
  allowsLiterals : Bool
  ns : Option String
  /-- Seconds that the store may take. -/
  timeout : Option UInt64
deriving DecidableEq, Repr

/-- The entities that a query streams; a failure may come at any place. -/
abbrev EntityStream := List (Except StoreError Entity)

/-- A store of entities with a state of type `σ`. -/
class EntityStore (σ : Type) where
  /-- Gives the entity of an incomplete key an id.  The entity is not created. -/
  allocate : Key → σ → Except StoreError Key × σ
  /-- Keeps a new entity. -/
  insert : Entity → σ → Except StoreError Key × σ
  /-- Runs a query. -/
  runQuery : StoreQuery → σ → Except StoreError EntityStream × σ

end EntityQuery
