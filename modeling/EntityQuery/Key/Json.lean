import EntityQuery.Key.Basic
import EntityQuery.Json.Fields

/-!
# Keys in JSON

A key is an object of a namespace and a path, and an element of the path is an
object of a kind and an id.  A numeric id is a JSON integer and a name is a
JSON string, so no name is taken for a number.
-/

namespace EntityQuery

open EntityQuery.Json (Fields fields?)

/-- What is wrong with the JSON of a key. -/
inductive KeyFault where
  | emptyPath
  | malformed
deriving DecidableEq

namespace KeyFault

/-- What to tell about the fault. -/
def message? : KeyFault → Option String
  | .emptyPath => some "key path must not be empty"
  | .malformed => none

end KeyFault

namespace KeyId

/-- The id that a JSON value writes: an integer is a number, a string a name. -/
def ofWritten? : Json → Option KeyId
  | .number n => n.int64?.map .number
  | .string s => some (.name s)
  | _ => none

end KeyId

namespace PathElement

/-- The JSON of an element. -/
def toJson (element : PathElement) : Json :=
  .object [("kind", .string element.kind),
    ("id", match element.id with
      | some id => id.toJson
      | none => .null)]

/-- The element that a JSON value writes. -/
def ofJson? (v : Json) : Option PathElement := do
  let fields ← fields? ["kind", "id"] v
  let kind ← fields.required? Json.string? "kind"
  let id ← fields.nullable? KeyId.ofWritten? "id"
  some ⟨kind, id⟩

end PathElement

namespace Key

/-- The JSON of a key. -/
def toJson (key : Key) : Json :=
  .object [("namespace", match key.ns with
      | some ns => .string ns
      | none => .null),
    ("path", .array (key.path.map PathElement.toJson))]

/-- The namespace and the path that a JSON value writes. -/
def readParts? (v : Json) : Option (Option String × List PathElement) := do
  let fields ← fields? ["namespace", "path"] v
  let ns ← fields.optional? Json.string? "namespace"
  let path ← fields.required? (Json.list? PathElement.ofJson?) "path"
  some (ns, path)

/-- The key that a JSON value writes. -/
def ofJson (v : Json) : Except KeyFault Key :=
  match readParts? v with
  | none => .error .malformed
  | some (ns, path) =>
    match ofPath? ns path with
    | none => .error .emptyPath
    | some key => .ok key

end Key

end EntityQuery
