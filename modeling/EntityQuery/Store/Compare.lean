import EntityQuery.Json.Writer
import EntityQuery.Gql.Statement
import EntityQuery.Store.Entity

/-!
# Comparing values

How the values of properties compare, in filters and for sorting.

* In a filter only values of one type compare.  A condition between values that
  do not compare holds only if it asks for inequality, and a condition on a
  property that is not there never holds.
* For sorting, values of different types are in the order of their types: none,
  null, booleans, numbers, texts, and then arrays and objects.
-/

namespace EntityQuery

namespace Json

/-- Whether false and true compare, false first. -/
def orderBool : Bool → Bool → Ordering
  | false, true => .lt
  | true, false => .gt
  | _, _ => .eq

/-- How two values of one type compare.  Arrays that differ, and objects that differ, compare by
their text. -/
def order? : Json → Json → Option Ordering
  | .null, .null => some .eq
  | .bool a, .bool b => some (orderBool a b)
  | .number m, .number n => m.order? n
  | .string s, .string t => some (TotalOrder.order s t)
  | .array xs, .array ys =>
    some (if same (.array xs) (.array ys) then .eq
      else TotalOrder.order (Json.array xs).text (Json.array ys).text)
  | .object xs, .object ys =>
    some (if same (.object xs) (.object ys) then .eq
      else TotalOrder.order (Json.object xs).text (Json.object ys).text)
  | _, _ => none

/-- The place of a type in the order for sorting. -/
def sortRank : Option Json → Nat
  | none => 0
  | some .null => 1
  | some (.bool _) => 2
  | some (.number _) => 3
  | some (.string _) => 4
  | some (.array _) | some (.object _) => 5

/-- The order of values for sorting. -/
def sortOrder (a b : Option Json) : Ordering :=
  match a, b with
  | some x, some y => (order? x y).getD (TotalOrder.order (sortRank a) (sortRank b))
  | _, _ => TotalOrder.order (sortRank a) (sortRank b)

end Json

namespace Key

/-- How the id of a key compares with the last id of a path.  They compare if both have the same
length, the same ancestors and the same kind. -/
def orderPath? (key : Key) (path : List (String × KeyId)) : Option Ordering :=
  match path.getLast? with
  | none => none
  | some (kind, id) =>
    if key.ancestors = path.dropLast.map (fun element => ⟨element.1, some element.2⟩) ∧
        key.kind = kind then
      key.id.map fun own => TotalOrder.order own id
    else none

end Key

namespace Condition

/-- How the property of an entity compares with an operand.  A timestamp compares with a text
that is one. -/
def orderOperand? (actual : Json) : Operand → Option Ordering
  | .value expected => actual.order? expected
  | .timestamp expected =>
    match actual with
    | .string s => (Instant.read? s.toList).map fun t => t.order expected
    | _ => none
  | .key _ => none

/-- Whether an entity meets a condition. -/
def holds (condition : Condition) (e : Entity) : Bool :=
  if condition.field = keyField then
    match condition.operand with
    | .key path =>
      match e.key.orderPath? path with
      | some ordering => condition.op.holds ordering
      | none => false
    | _ => false
  else
    match e.get? condition.field with
    | none => false
    | some actual =>
      match orderOperand? actual condition.operand with
      | some ordering => condition.op.holds ordering
      | none => condition.op.isNotEqual

end Condition

namespace Statement

/-- Whether an entity meets the filter: all conditions of one group, or anything if there are no
groups. -/
def isMetBy (s : Statement) (e : Entity) : Bool :=
  s.groups.isEmpty || s.groups.any fun group => group.all fun condition => condition.holds e

/-- Whether a query finds an entity: it meets the filter and has the fields to return. -/
def finds (s : Statement) (e : Entity) : Bool := s.isMetBy e && e.hasAll s.projection

/-- The order of two entities by the fields to sort by. -/
def orderBySpecs : List SortSpec → Entity → Entity → Ordering
  | [], _, _ => .eq
  | spec :: specs, a, b =>
    let ordering := Json.sortOrder (a.get? spec.field) (b.get? spec.field)
    let directed :=
      match spec.direction with
      | .ascending => ordering
      | .descending => ordering.swap
    directed.then (orderBySpecs specs a b)

/-- The number of entities that a query without a limit returns at most. -/
def defaultLimit : Nat := 1000

/-- What a query returns of the entities of its kind: those that it finds, sorted, from the
offset on, up to the limit, with the fields to return. -/
def run (s : Statement) (entities : List Entity) : List Entity :=
  let found := entities.filter s.finds
  let sorted := found.mergeSort fun a b => orderBySpecs s.orders a b != .gt
  let offset := (s.offset.map UInt64.toNat).getD 0
  let limit := (s.limit.map UInt64.toNat).getD defaultLimit
  ((sorted.drop offset).take limit).map fun e => e.select s.projection

end Statement

end EntityQuery
