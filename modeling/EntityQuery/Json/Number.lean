import EntityQuery.Number.Notation

/-!
# JSON numbers

A JSON number is an integer that fits 64 bits, signed or unsigned, or a
binary64 number.  An integer and a float are different numbers even where they
have the same size: `1` is not `1.0`.
-/

namespace EntityQuery

/-- The integers of JSON numbers. -/
structure JsonInt where
  val : Int
  /-- No less than the least signed integer of 64 bits. -/
  lower : -9223372036854775808 ≤ val
  /-- No more than the greatest unsigned integer of 64 bits. -/
  upper : val ≤ 18446744073709551615
deriving DecidableEq

/-- The JSON integer equal to an integer, if there is one. -/
def JsonInt.ofInt? (n : Int) : Option JsonInt :=
  if h : -9223372036854775808 ≤ n ∧ n ≤ 18446744073709551615 then some ⟨n, h.1, h.2⟩ else none

/-- A number of JSON text. -/
inductive JsonNumber where
  | integer (n : JsonInt)
  | float (x : Binary64)
deriving DecidableEq

namespace JsonNumber

/-- The number of a signed 64-bit integer. -/
def ofInt64 (i : Int64) : JsonNumber :=
  .integer ⟨i.toInt, by have := i.le_toInt; simpa using this, by
    have := i.toInt_lt
    omega⟩

/-- The number of an unsigned 64-bit integer. -/
def ofUInt64 (n : UInt64) : JsonNumber :=
  .integer ⟨n.toNat, by omega, by have := n.toNat_lt; omega⟩

/-- The signed 64-bit integer of a number; floats have none. -/
def int64? : JsonNumber → Option Int64
  | .integer n => if n.val ≤ 9223372036854775807 then some (Int64.ofInt n.val) else none
  | .float _ => none

/-- The unsigned 64-bit integer of a number; floats have none. -/
def uint64? : JsonNumber → Option UInt64
  | .integer n => if 0 ≤ n.val then some (UInt64.ofNat n.val.toNat) else none
  | .float _ => none

/-- The binary64 number nearest to a number. -/
def binary64? : JsonNumber → Option Binary64
  | .integer n => Binary64.ofInt? n.val
  | .float x => some x

/-- The characters of a number. -/
def chars : JsonNumber → List Char
  | .integer n => Text.intDigits n.val
  | .float x => x.chars

/-- The text of a number. -/
def text (n : JsonNumber) : String := String.ofList n.chars

/-- Equality of numbers: integers by value, floats by value with equal zeros. -/
def same : JsonNumber → JsonNumber → Bool
  | .integer m, .integer n => m.val == n.val
  | .float x, .float y => x.same y
  | _, _ => false

/-- How two numbers compare: exactly if both are signed 64-bit integers, and else as
binary64 numbers. -/
def order? (m n : JsonNumber) : Option Ordering :=
  match m.int64?, n.int64? with
  | some i, some j => some (TotalOrder.order i j)
  | _, _ =>
    match m.binary64?, n.binary64? with
    | some x, some y => some (x.order y)
    | _, _ => none

theorem int64?_ofInt64 (i : Int64) : (ofInt64 i).int64? = some i := by
  have := i.toInt_lt
  simp only [ofInt64, int64?]
  rw [if_pos (by omega), Int64.ofInt_toInt]

end JsonNumber

end EntityQuery
