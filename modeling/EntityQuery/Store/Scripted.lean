import EntityQuery.Store.Client

/-!
# Stores that follow a script

`ScriptedStore` answers every request as its script says and keeps what it was
given.  It stands for a store that the caller knows nothing about.
-/

namespace EntityQuery

/-- What a scripted store answers. -/
structure Script where
  /-- The id for every key, or none if keys come back as they are. -/
  allocation : Except StoreError (Option KeyId)
  /-- Why insertions fail, if they do. -/
  insertFailure : Option StoreError
  /-- Why queries fail, if they do. -/
  queryFailure : Option StoreError
  /-- What every query streams. -/
  results : List (Except StoreError Entity)

/-- A store that answers by a script. -/
structure ScriptedStore where
  script : Script
  /-- The entities that were inserted, in order. -/
  inserted : List Entity
  /-- The queries that were received, in order. -/
  queries : List StoreQuery

namespace ScriptedStore

/-- The store that has received nothing yet. -/
def ofScript (script : Script) : ScriptedStore := ⟨script, [], []⟩

/-- Gives a key the id of the script. -/
def allocate (key : Key) (store : ScriptedStore) : Except StoreError Key × ScriptedStore :=
  match store.script.allocation with
  | .error e => (.error e, store)
  | .ok none => (.ok key, store)
  | .ok (some id) => (.ok (key.withId id), store)

/-- Keeps an entity, unless the script says that insertions fail. -/
def insert (entity : Entity) (store : ScriptedStore) : Except StoreError Key × ScriptedStore :=
  match store.script.insertFailure with
  | some e => (.error e, store)
  | none => (.ok entity.key, { store with inserted := store.inserted ++ [entity] })

/-- Keeps a query, and answers it by the script. -/
def runQuery (query : StoreQuery) (store : ScriptedStore) :
    Except StoreError EntityStream × ScriptedStore :=
  let store := { store with queries := store.queries ++ [query] }
  match store.script.queryFailure with
  | some e => (.error e, store)
  | none => (.ok store.script.results, store)

instance : EntityStore ScriptedStore := ⟨allocate, insert, runQuery⟩

end ScriptedStore

end EntityQuery
