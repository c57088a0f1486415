import EntityQuery.Store.Entity

/-!
# Records

A record is what a caller gets of an entity that was found: its properties,
without key.  A field that is not there has the value null for who asks by
name alone.
-/

namespace EntityQuery

/-- The fields of an entity that was found. -/
structure Record where
  fields : Properties

namespace Record

/-- The record of an entity. -/
def ofEntity (e : Entity) : Record := ⟨e.properties⟩

/-- The value of a field. -/
def get? (record : Record) (field : String) : Option Json := record.fields.get? field

/-- The value of a field, and null if there is none. -/
def getD (record : Record) (field : String) : Json := (record.get? field).getD .null

/-- Whether there is a field with the given name. -/
def has (record : Record) (field : String) : Bool := record.fields.has field

/-- The names of the fields in ascending order. -/
def names (record : Record) : List String := record.fields.map Prod.fst

/-- The number of fields. -/
def size (record : Record) : Nat := record.fields.length

/-- Whether there are no fields. -/
def isEmpty (record : Record) : Bool := record.fields.isEmpty

/-- The object of the fields. -/
def toJson (record : Record) : Json := .object record.fields

end Record

end EntityQuery
