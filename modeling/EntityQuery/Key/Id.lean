import EntityQuery.Json.Writer
import EntityQuery.Text.Blank
import EntityQuery.Text.Quoted

/-!
# Key ids

The id of one element of a key is a number that the store gave out or a name
that the caller chose.  Numbers come before names.

`KeyId.ofJson` takes the id out of a filter value: integers, and texts that
read as one, are numbers, and everything else is a name.
-/

namespace EntityQuery

/-- The id of one element of a key. -/
inductive KeyId where
  | number (id : Int64)
  | name (name : String)
deriving DecidableEq

namespace KeyId

open EntityQuery.Text

/-- The id that a filter value stands for.  A text that reads as an integer, white space around
it aside, is a number; values that are neither integer nor text are named by their JSON text. -/
def ofJson : Json → KeyId
  | .number n =>
    match n.int64? with
    | some id => .number id
    | none => .name n.text
  | .string s =>
    match readInt64? (trimChars s.toList) with
    | some id => .number id
    | none => .name s
  | v => .name v.text

/-- The JSON value of an id. -/
def toJson : KeyId → Json
  | .number id => .ofInt64 id
  | .name s => .string s

theorem ofJson_toJson_number (n : Int64) : ofJson (number n).toJson = number n := by
  show ofJson (.number (.ofInt64 n)) = _
  rw [ofJson, JsonNumber.int64?_ofInt64]

theorem ofJson_toJson_name (s : String) :
    ofJson (name s).toJson = (readInt64? (trimChars s.toList)).elim (name s) number := by
  show ofJson (.string s) = _
  rw [ofJson]
  cases readInt64? (trimChars s.toList) <;> rfl

/-- An id comes out of its filter value as it is, unless it is a name that reads as an integer of
64 bits, white space around it aside. -/
theorem ofJson_toJson_eq_iff {id : KeyId} :
    ofJson id.toJson = id ↔ ∀ s, id = name s → readInt64? (trimChars s.toList) = none := by
  cases id with
  | number n =>
    rw [ofJson_toJson_number]
    simp
  | name s =>
    rw [ofJson_toJson_name]
    cases hread : readInt64? (trimChars s.toList) with
    | none => simp [hread]
    | some n => simp [hread]

/-- The characters of an id: a number as it is, a name in single quotes. -/
def chars : KeyId → List Char
  | .number id => intDigits id.toInt
  | .name s => '\'' :: Quoted.encode '\'' s.toList ++ ['\'']

/-- The text of an id. -/
def text (id : KeyId) : String := String.ofList id.chars

/-- The order of ids: numbers by size, then names by code point. -/
def order : KeyId → KeyId → Ordering
  | .number a, .number b => TotalOrder.order a b
  | .number _, .name _ => .lt
  | .name _, .number _ => .gt
  | .name a, .name b => TotalOrder.order a b

instance : TotalOrder KeyId where
  order := order
  order_eq_iff := by
    intro a b
    cases a <;> cases b <;> simp [order, TotalOrder.order_eq_iff]
  order_swap a b := by
    cases a <;> cases b
    · exact TotalOrder.order_swap ..
    · rfl
    · rfl
    · exact TotalOrder.order_swap ..
  order_trans := by
    intro a b c hab hbc
    cases a <;> cases b <;> cases c <;> simp_all [order]
    · exact TotalOrder.order_trans hab hbc
    · exact TotalOrder.order_trans hab hbc

end KeyId

end EntityQuery
