import EntityQuery.Number.Binary64

/-!
# Shortest decimals

The shortest decimal of a binary64 magnitude is the one with the fewest digits
among those that are read back as the same number; of several with that many
digits it is the nearest, and of two equally near the one with the even last
digit.

A decimal is read back as the number if it lies between the points halfway to
the two neighbours; those points themselves belong to the number with the even
code.  `search` goes through the powers of ten from above and stops at the
first whose grid has a point in that interval.  It need only look at the two
grid points around the magnitude.
-/

namespace EntityQuery.Binary64

/-- A decimal magnitude: `digits * 10 ^ exponent`. -/
structure Decimal where
  digits : Nat
  exponent : Int
deriving DecidableEq, Repr

/-- The number of halves of 2⁻¹⁰⁷⁴ in the point halfway to the next lower magnitude. -/
def lowerHalfway (code : Nat) : Nat := weight (code - 1) + weight code

/-- The number of halves of 2⁻¹⁰⁷⁴ in the point halfway to the next higher magnitude. -/
def upperHalfway (code : Nat) : Nat := weight code + weight (code + 1)

/-- Whether `digits * 10 ^ (place - 1075)` is read back as the number with the given code. -/
def readsBack (code place digits : Nat) : Bool :=
  let point := digits * twoTo 1075 * tenTo (place - 1075)
  let lower := lowerHalfway code * tenTo (1075 - place)
  let upper := upperHalfway code * tenTo (1075 - place)
  if code % 2 = 0 then lower ≤ point && point ≤ upper else lower < point && point < upper

/-- The point of the grid of multiples of `10 ^ (place - 1075)` that stands for the code: of the
two points around the magnitude the one that is read back, the nearer if both are. -/
def gridPoint? (code place : Nat) : Option Nat :=
  let num := weight code * tenTo (1075 - place)
  let den := twoTo 1074 * tenTo (place - 1075)
  let below := num / den
  match readsBack code place below, readsBack code place (below + 1) with
  | true, true => some (roundHalfEven num den)
  | true, false => some below
  | false, true => some (below + 1)
  | false, false => none

/-- The point of the coarsest grid that has one, from `10 ^ (place - 1075)` downwards.  The
magnitude itself is a point of the last grid. -/
def search (code : Nat) : Nat → Decimal
  | 0 => ⟨weight code * Nat.pow 5 1074 * 10, -1075⟩
  | place + 1 =>
    match gridPoint? code (place + 1) with
    | some digits => ⟨digits, (place + 1 : Int) - 1075⟩
    | none => search code place

/-- A place of which the power of ten is above the magnitude of the code. -/
def topPlace (code : Nat) : Nat :=
  (((((weight code).log2 : Int) - 1073) * 30103).fdiv 100000 + 1076).toNat

/-- The shortest decimal that is read back as the number with the given code. -/
def shortest (code : Nat) : Decimal :=
  if code = 0 then ⟨0, 0⟩ else search code (topPlace code)

end EntityQuery.Binary64
