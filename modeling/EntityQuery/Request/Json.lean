import EntityQuery.Json.Fields
import EntityQuery.Request.Basic

/-!
# Requests in JSON

A request is a record of which every field may be missing, and no other fields
are allowed.  A filter has a field, an operator and a value, and is joined by
`and` unless it says otherwise.  A sort has a field, and is ascending unless it
says otherwise.
-/

namespace EntityQuery

open EntityQuery.Json (Fields fields? hasOnly)

namespace Connector

/-- The connector that a JSON value writes. -/
def ofJson? (v : Json) : Option Connector := v.choice?.bind ofName?

end Connector

namespace Direction

/-- The direction that a JSON value writes. -/
def ofJson? (v : Json) : Option Direction := v.choice?.bind ofName?

end Direction

namespace Clause

/-- The clause that a JSON value writes. -/
def ofJson? (v : Json) : Option Clause := do
  let fields ← fields? ["field", "op", "value", "connector"] v
  let field ← fields.required? Json.string? "field"
  let operator ← fields.required? Json.string? "op"
  let value ← fields.find? "value"
  let connector ← fields.getD? Connector.ofJson? "connector" .and
  some ⟨field, operator, .literal value, connector⟩

end Clause

namespace SortSpec

/-- The sort that a JSON value writes. -/
def ofJson? (v : Json) : Option SortSpec := do
  let fields ← fields? ["field", "direction"] v
  let field ← fields.required? Json.string? "field"
  let direction ← fields.getD? Direction.ofJson? "direction" .ascending
  some ⟨field, direction⟩

end SortSpec

namespace Request

/-- The names of the fields in the order of their declaration. -/
def fieldNames : List String :=
  ["kind", "filters", "select", "order", "limit", "offset", "find", "timeout_secs"]

/-- The request that a JSON value writes. -/
def ofJson? (v : Json) : Option Request := do
  let fields ← fields? fieldNames v
  if hasOnly fieldNames v then
    let kind ← fields.optional? Json.string? "kind"
    let filters ← fields.getD? (Json.list? Clause.ofJson?) "filters" []
    let select ← fields.getD? (Json.list? Json.string?) "select" []
    let orders ← fields.getD? (Json.list? SortSpec.ofJson?) "order" []
    let limit ← fields.optional? Json.uint64? "limit"
    let offset ← fields.optional? Json.uint64? "offset"
    let find ← fields.optional? some "find"
    let timeout ← fields.optional? Json.uint64? "timeout_secs"
    some ⟨kind, filters, select, orders, limit, offset, find, timeout⟩
  else none

end Request

end EntityQuery
