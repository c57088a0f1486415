import EntityQuery.Store.Client

/-!
# Stores that are watched

`Recorded σ` is a store of type `σ` together with the requests that it has
received, in order, each with the answer that it gave.  The answers are those of
the store, so a statement about the requests of a watched store is one about any
store.
-/

namespace EntityQuery

/-- A request to a store, with the answer. -/
inductive StoreCall where
  | allocate (key : Key) (answer : Except StoreError Key)
  | insert (entity : Entity) (answer : Except StoreError Key)
  | query (query : StoreQuery) (answer : Except StoreError EntityStream)

/-- A store, and the requests that it has received. -/
structure Recorded (σ : Type) where
  store : σ
  calls : List StoreCall

namespace Recorded

variable {σ : Type} [EntityStore σ]

/-- Gives the entity of an incomplete key an id, and keeps the request. -/
def allocate (key : Key) (watched : Recorded σ) : Except StoreError Key × Recorded σ :=
  let (answer, store) := EntityStore.allocate key watched.store
  (answer, ⟨store, watched.calls ++ [.allocate key answer]⟩)

/-- Keeps a new entity, and the request. -/
def insert (entity : Entity) (watched : Recorded σ) : Except StoreError Key × Recorded σ :=
  let (answer, store) := EntityStore.insert entity watched.store
  (answer, ⟨store, watched.calls ++ [.insert entity answer]⟩)

/-- Runs a query, and keeps the request. -/
def runQuery (query : StoreQuery) (watched : Recorded σ) :
    Except StoreError EntityStream × Recorded σ :=
  let (answer, store) := EntityStore.runQuery query watched.store
  (answer, ⟨store, watched.calls ++ [.query query answer]⟩)

instance : EntityStore (Recorded σ) := ⟨allocate, insert, runQuery⟩

end Recorded

end EntityQuery
