import EntityQuery.Connection.Config
import EntityQuery.Json.Fields

/-!
# Configurations in JSON

A configuration is a record of `project_id`, `namespace`, `timeout_secs` and
`log_level`, of which only the first has to be there.  Members of other names
are left to whoever they are meant for.
-/

namespace EntityQuery.Config

open EntityQuery.Json (Fields Source)

/-- The names of the fields in the order of their declaration. -/
def fieldNames : List String := ["project_id", "namespace", "timeout_secs", "log_level"]

/-- The configuration with the given fields. -/
def ofFields? (fields : Fields) : Option Config := do
  let projectId ← fields.required? Json.string? "project_id"
  let ns ← fields.optional? Json.string? "namespace"
  let timeout ← fields.optional? Json.uint64? "timeout_secs"
  let logLevel ← fields.getD? Json.string? "log_level" defaultLevel
  some ⟨projectId, ns, timeout, logLevel⟩

/-- The configuration that a JSON value writes. -/
def ofJson? (v : Json) : Option Config := (Json.fields? fieldNames v).bind ofFields?

/-- The configuration that a JSON text writes. -/
def ofText? (s : String) : Option Config := do
  let source ← Source.read? s
  let fields ← Source.fields? fieldNames source
  ofFields? fields

end EntityQuery.Config
