import EntityQuery.Number.Power
import EntityQuery.TotalOrder

/-!
# Binary64 numbers

A finite number of the IEEE format binary64 is a sign and a code: the other 63
bits of its pattern, read as a natural number.  The code grows with the
magnitude, so numbers are compared by their signed codes.

`weight code` is the magnitude in units of 2⁻¹⁰⁷⁴, the least positive number.
All magnitudes are natural numbers of these units, and `nearest` takes a
fraction of natural numbers to the code whose magnitude is nearest to it.  A
fraction halfway between two goes to the even code.  No step uses rounded
arithmetic.
-/

namespace EntityQuery

/-- A finite binary64 number. -/
structure Binary64 where
  /-- The sign bit. -/
  negative : Bool
  /-- The bits of exponent and fraction, as a number. -/
  code : Nat
  /-- Infinity has the first code that is not finite. -/
  finite : code < 0x7FF0000000000000
deriving DecidableEq

namespace Binary64

/-- The number with the given sign and code, if the code is one of a finite number. -/
def ofCode? (negative : Bool) (code : Nat) : Option Binary64 :=
  if h : code < 0x7FF0000000000000 then some ⟨negative, code, h⟩ else none

/-- Zero with the given sign. -/
def zero (negative : Bool) : Binary64 := ⟨negative, 0, by decide⟩

/-- The power of two by which the significand of a code is scaled, in units of 2⁻¹⁰⁷⁴. -/
def scale (code : Nat) : Nat := code / 0x10000000000000 - 1

/-- The significand of a code: its fraction bits, under a leading one unless the exponent
bits are all zero. -/
def significand (code : Nat) : Nat :=
  if code < 0x10000000000000 then code else 0x10000000000000 + code % 0x10000000000000

/-- The magnitude of a code in units of 2⁻¹⁰⁷⁴. -/
def weight (code : Nat) : Nat := significand code * twoTo (scale code)

/-! ## Order -/

/-- The code with the sign of the number.  Both zeros have the signed code zero. -/
def signedCode (x : Binary64) : Int := if x.negative then -(x.code : Int) else x.code

/-- How two numbers compare; the two zeros are equal. -/
def order (x y : Binary64) : Ordering := TotalOrder.orderInt x.signedCode y.signedCode

/-- Numeric equality. -/
def same (x y : Binary64) : Bool := x.signedCode == y.signedCode

/-! ## Rounding -/

/-- The natural number nearest to `num / den`; a half goes to the even neighbour. -/
def roundHalfEven (num den : Nat) : Nat :=
  let quotient := num / den
  let twice := 2 * (num % den)
  if twice < den then quotient
  else if den < twice then quotient + 1
  else quotient + quotient % 2

/-- The code of the magnitude nearest to `num / den`.  Codes that are not finite stand for
magnitudes beyond the largest finite one. -/
def nearest (num den : Nat) : Nat :=
  let units := num * twoTo 1074
  let shift := (units / den).log2 - 52
  shift * 0x10000000000000 + roundHalfEven units (den * twoTo shift)

/-- The number nearest to `num / den`, unless that is beyond the largest finite one. -/
def ofRatio? (negative : Bool) (num den : Nat) : Option Binary64 :=
  ofCode? negative (nearest num den)

/-- The number nearest to an integer, unless that is beyond the largest finite one. -/
def ofInt? (n : Int) : Option Binary64 := ofRatio? (n < 0) n.natAbs 1

/-! ## Decimals -/

/-- The number nearest to `digits * 10 ^ exponent`, unless that is beyond the largest finite
one.  The first two cases keep the powers of ten small: they hold magnitudes below 2⁻¹⁰⁷⁵
and above 2¹⁰²⁴. -/
def ofDecimal? (negative : Bool) (digits : Nat) (exponent : Int) : Option Binary64 :=
  if digits = 0 ∨ exponent + (digits.log2 + 1) < -330 then some (zero negative)
  else if 310 < exponent then none
  else if 0 ≤ exponent then ofRatio? negative (digits * tenTo exponent.toNat) 1
  else ofRatio? negative digits (tenTo (-exponent).toNat)

/-! ## Rounded products and quotients of magnitudes -/

/-- The code nearest to the product of the magnitudes of two codes. -/
def mulCodes (a b : Nat) : Nat := nearest (weight a * weight b) (twoTo 1074 * twoTo 1074)

/-- The code nearest to the quotient of the magnitudes of two codes. -/
def divCodes (a b : Nat) : Nat := nearest (weight a) (weight b)

end Binary64

end EntityQuery
