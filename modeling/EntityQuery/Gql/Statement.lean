import EntityQuery.Query.Clause
import EntityQuery.Query.Operator

/-!
# Statements

A statement is what query text says, in the form in which a store carries it
out.
-/

namespace EntityQuery

/-- The value that a condition compares with. -/
inductive Operand where
  | value (v : Json)
  | timestamp (t : Instant)
  /-- A path of kinds and ids, ancestors first. -/
  | key (path : List (String × KeyId))

/-- A comparison of a field with a value. -/
structure Condition where
  field : String
  op : Operator
  operand : Operand

/-- A query that a store can carry out. -/
structure Statement where
  /-- The fields to return; all of them if there are none. -/
  projection : List String
  kind : String
  /-- Groups of conditions.  An entity is found if all conditions of one group hold, or if there
  are no groups. -/
  groups : List (List Condition)
  orders : List SortSpec
  limit : Option UInt64
  offset : Option UInt64

namespace Statement

/-- Whether the statement compares anything with a value. -/
def hasLiterals (s : Statement) : Bool := !s.groups.isEmpty

end Statement

end EntityQuery
