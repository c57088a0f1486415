import EntityQuery.Gql.Parser
import EntityQuery.Store.Client
import EntityQuery.Store.Compare

/-!
# The store in memory

`MemoryStore` keeps entities by their addresses, in the order in which a query
without a sort returns them: within a partition by the ids of their paths,
numbers before names.  It carries queries out by reading their text.

Ids are given out in sequence, one sequence for a partition, and an entity that
is inserted under a number moves the sequence of its partition up to it.  A
sequence is an integer of 64 bits, and the greatest of these is followed by the
least.  A program that checks its additions stops there instead, before
anything is changed.
-/

namespace EntityQuery

/-- A store in memory. -/
structure MemoryStore where
  entities : OrderedMap Key.Address Entity
  /-- The last number that was given out in a partition. -/
  sequences : OrderedMap Key.Partition Int64
  /-- Every query that was received, in order. -/
  executed : List StoreQuery
  /-- The number of insertions that succeeded. -/
  writes : Nat
  /-- The number of ids that were given out. -/
  allocations : Nat
  /-- Whether every request is answered with `unavailable`. -/
  isUnavailable : Bool

namespace MemoryStore

/-- The store that holds nothing. -/
def empty : MemoryStore := ⟨∅, ∅, [], 0, 0, false⟩

instance : Inhabited MemoryStore := ⟨empty⟩

/-- Makes the store answer nothing, or answer again. -/
def setUnavailable (store : MemoryStore) (isUnavailable : Bool) : MemoryStore :=
  { store with isUnavailable }

/-- The entity under a key. -/
def get? (store : MemoryStore) (key : Key) : Option Entity :=
  key.address?.bind store.entities.get?

/-- The last number that was given out in a partition. -/
def sequence (store : MemoryStore) (partition : Key.Partition) : Int64 :=
  (store.sequences.get? partition).getD 0

/-- The entities of a partition in the order of their ids. -/
def shelf (store : MemoryStore) (partition : Key.Partition) : List Entity :=
  (store.entities.entries.filter fun entry => entry.1.1 == partition).map Prod.snd

/-- The number of entities of a kind in the default namespace. -/
def count (store : MemoryStore) (kind : String) : Nat := (store.shelf (none, kind)).length

/-- Gives an incomplete key the next number of its partition.  A key with an id stays as it is. -/
def allocate (key : Key) (store : MemoryStore) : Except StoreError Key × MemoryStore :=
  if store.isUnavailable then (.error .unavailable, store)
  else if key.isIncomplete then
    let next := store.sequence key.partition + 1
    (.ok (key.withId (.number next)),
      { store with
        sequences := store.sequences.insert key.partition next
        allocations := store.allocations + 1 })
  else (.ok key, store)

/-- The sequences after an entity was inserted under a key: that of its partition is at least as
far as its number. -/
def advance (store : MemoryStore) (key : Key) : OrderedMap Key.Partition Int64 :=
  match key.id with
  | some (.number id) =>
    store.sequences.insert key.partition (max (store.sequence key.partition) id)
  | _ => store.sequences

/-- Keeps a new entity, unless there is one under its key or the key lacks an id. -/
def insert (e : Entity) (store : MemoryStore) : Except StoreError Key × MemoryStore :=
  if store.isUnavailable then (.error .unavailable, store)
  else
    match e.key.address? with
    | none => (.error (.incompleteKey e.key.text), store)
    | some address =>
      let sequences := store.advance e.key
      match store.entities.get? address with
      | some _ => (.error (.alreadyExists e.key.text), { store with sequences })
      | none =>
        (.ok e.key,
          { store with
            sequences
            entities := store.entities.insert address e
            writes := store.writes + 1 })

/-- What the store answers to a query. -/
def answer (store : MemoryStore) (query : StoreQuery) : Except StoreError EntityStream :=
  if store.isUnavailable then .error .unavailable
  else
    match Gql.parse query.gql with
    | .error e => .error (.invalidQuery e.message)
    | .ok statement =>
      if statement.hasLiterals && !query.allowsLiterals then .error .literalsNotAllowed
      else .ok ((statement.run (store.shelf (query.ns, statement.kind))).map .ok)

/-- Runs a query, and keeps it among those received. -/
def runQuery (query : StoreQuery) (store : MemoryStore) :
    Except StoreError EntityStream × MemoryStore :=
  (store.answer query, { store with executed := store.executed ++ [query] })

instance : EntityStore MemoryStore := ⟨allocate, insert, runQuery⟩

end MemoryStore

end EntityQuery
