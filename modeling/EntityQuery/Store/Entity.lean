import EntityQuery.Key.Basic
import EntityQuery.OrderedMap

/-!
# Entities

An entity is a record without a schema under a key.  Some of its properties may
be excluded from the indexes of the store.
-/

namespace EntityQuery

/-- The names of a list, each once, in ascending order. -/
def ascendingNames (names : List String) : List String :=
  (names.foldl (fun entries name => insertEntry name () entries) []).map Prod.fst

/-- A record under a key. -/
structure Entity where
  key : Key
  properties : Properties
  /-- The properties that are not indexed, each once, in ascending order. -/
  excluded : List String

namespace Entity

/-- The entity of which the given properties are not indexed. -/
def create (key : Key) (properties : Properties) (excluded : List String) : Entity :=
  ⟨key, properties, ascendingNames excluded⟩

/-- The entity with the named properties only. -/
def project (e : Entity) (fields : List String) : Entity :=
  { e with properties := e.properties.filter fun property => fields.contains property.1 }

/-- The entity as a query with the given projection returns it: whole if that names no field. -/
def select (e : Entity) (projection : List String) : Entity :=
  if projection.isEmpty then e else e.project projection

/-- The value of a property. -/
def get? (e : Entity) (field : String) : Option Json := findEntry field e.properties

/-- Whether the entity has every one of the named properties. -/
def hasAll (e : Entity) (fields : List String) : Bool :=
  fields.all fun field => (e.get? field).isSome

end Entity

end EntityQuery
