import EntityQuery.Key.Basic
import EntityQuery.Time.Instant

/-!
# Filter clauses

A clause compares a field with a value.  It keeps the operator as it was
written; the query is checked when it is compiled.
-/

namespace EntityQuery

/-- How a clause is joined to the ones before it. -/
inductive Connector where
  | and
  | or
deriving DecidableEq, Repr

namespace Connector

/-- The keyword of a connector. -/
def text : Connector → String
  | .and => "AND"
  | .or => "OR"

/-- The connector with the given name. -/
def ofName? : String → Option Connector
  | "and" => some .and
  | "or" => some .or
  | _ => none

end Connector

/-- The value that a clause compares with. -/
inductive FilterValue where
  | literal (v : Json)
  | timestamp (t : Instant)
  | key (literal : KeyLiteral)

namespace FilterValue

/-- Whether the value is a plain literal. -/
def isLiteral : FilterValue → Bool
  | .literal _ => true
  | _ => false

/-- An id as a value to compare with. -/
def ofId (id : KeyId) : FilterValue := .literal id.toJson

end FilterValue

/-- A comparison of a field with a value. -/
structure Clause where
  field : String
  operator : String
  value : FilterValue
  connector : Connector

/-- The direction of a sort. -/
inductive Direction where
  | ascending
  | descending
deriving DecidableEq, Repr

namespace Direction

/-- The keyword of a direction. -/
def text : Direction → String
  | .ascending => "ASC"
  | .descending => "DESC"

/-- The direction with the given name. -/
def ofName? : String → Option Direction
  | "asc" => some .ascending
  | "desc" => some .descending
  | _ => none

end Direction

/-- A field to sort by, and the direction. -/
structure SortSpec where
  field : String
  direction : Direction
deriving DecidableEq, Repr

end EntityQuery
