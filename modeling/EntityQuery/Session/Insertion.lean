import EntityQuery.Query.Basic
import EntityQuery.Query.Error
import EntityQuery.Session.Basic

/-!
# Inserting entities

An entity is inserted in two steps: the store gives out an id, and the entity is
then kept under the key with that id.  Either step may fail, and each failure is
recorded once.
-/

namespace EntityQuery

variable {σ : Type}

namespace Session

/-- Records that an insertion has failed, and answers with the failure. -/
def failWrite (s : Session σ) (kind : String) (source : StoreError) :
    Except QueryError KeyId × Session σ :=
  let e := QueryError.storeWrite source
  (.error e, s.logEvent .writeFailed [("kind", kind), ("reason", e.message)])

variable [EntityStore σ]

/-- Inserts an entity of the given kind under an id that the store gives out. -/
def insertGetId (s : Session σ) (kind : String) (ns : Option String) (properties : Properties)
    (excluded : List String) : Except QueryError KeyId × Session σ :=
  match s.allocate ((Key.incomplete kind).withNamespace ns) with
  | (.error e, s) => s.failWrite kind e
  | (.ok key, s) =>
    match key.id with
    | none => s.failWrite kind (.incompleteKey key.text)
    | some id =>
      let shown := [("id", id.text), ("kind", kind)]
      match (s.logEvent .keyAllocated shown).insert (Entity.create key properties excluded) with
      | (.error e, s) => s.failWrite kind e
      | (.ok _, s) => (.ok id, s.logEvent .entityInserted shown)

end Session

namespace Query

variable [EntityStore σ]

/-- Inserts an entity of the kind of the query and answers with its id. -/
def insertGetId (q : Query) (properties : Properties) (s : Session σ) :
    Except QueryError KeyId × Session σ :=
  match q.kind with
  | none => (.error .missingTargetKind, s)
  | some kind => s.insertGetId kind q.ns properties q.excluded

/-- Inserts entities in order and answers with their ids.  The first failure ends it, and the
entities before it stay. -/
def insert (q : Query) : List Properties → Session σ → Except QueryError (List KeyId) × Session σ
  | [], s => (.ok [], s)
  | properties :: rows, s =>
    match q.insertGetId properties s with
    | (.error e, s) => (.error e, s)
    | (.ok id, s) =>
      match q.insert rows s with
      | (.error e, s) => (.error e, s)
      | (.ok ids, s) => (.ok (id :: ids), s)

end Query

end EntityQuery
