import EntityQuery.Number.Binary64

/-!
# Reading by scaling

JSON text reads a decimal in two roundings.  The leading digits that fit 64
bits are rounded to a binary64 number, and that is multiplied or divided by a
power of ten and rounded again.  For up to 15 digits and small exponents both
steps are exact enough to give the nearest number; beyond that the last bit may
differ from it.
-/

namespace EntityQuery.Binary64

/-- The greatest exponent for which a power of ten is a finite number. -/
def maxPower : Nat := 308

/-- The code of the number nearest to a power of ten. -/
def powerCode (exponent : Nat) : Nat := nearest (tenTo exponent) 1

/-- Divides the magnitude of a code by `10 ^ exponent`, by at most `10 ^ 308` at a time. -/
def shrink (code exponent : Nat) : Nat :=
  if maxPower < exponent then
    if code = 0 then 0 else shrink (divCodes code (powerCode maxPower)) (exponent - maxPower)
  else divCodes code (powerCode exponent)
termination_by exponent
decreasing_by simp [maxPower] at *; omega

/-- The number `significand * 10 ^ exponent` by two roundings, unless it is beyond the largest
finite number. -/
def scaled? (negative : Bool) (significand : Nat) (exponent : Int) : Option Binary64 :=
  let code := nearest significand 1
  if exponent < 0 then ofCode? negative (shrink code (-exponent).toNat)
  else if maxPower < exponent.toNat then
    if code = 0 then some (zero negative) else none
  else ofCode? negative (mulCodes code (powerCode exponent.toNat))

end EntityQuery.Binary64
