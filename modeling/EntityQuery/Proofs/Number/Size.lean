import EntityQuery.Proofs.Number.Nearest
import Mathlib.Order.Monotone.Basic

/-!
# The sizes of binary64 numbers

Every binary64 number is an integer number of units of 2⁻¹⁰⁷⁴, and so is every integer.
Numbers in such units compare without rounding.

* Order.  `Binary64.order_eq_units`: binary64 numbers are in the order of their sizes,
  though it is their codes that are compared.
* Integers.  `Binary64.weight_nearest` and `Binary64.ofInt?_units`: an integer of magnitude
  at most 2⁵³ is its own nearest number.
-/

namespace EntityQuery

namespace Binary64

/-! ## Order -/

theorem weight_lt_weight {code other : Nat} : weight code < weight other ↔ code < other :=
  (strictMono_nat_of_lt_succ weight_lt_succ).lt_iff_lt

/-- A number in units of 2⁻¹⁰⁷⁴. -/
def units (x : Binary64) : Int := if x.negative then -(weight x.code : Int) else weight x.code

theorem signedCode_lt_iff {x y : Binary64} : x.signedCode < y.signedCode ↔ x.units < y.units := by
  have hlt := @weight_lt_weight x.code y.code
  have hgt := @weight_lt_weight y.code x.code
  have hx := @weight_lt_weight 0 x.code
  have hy := @weight_lt_weight 0 y.code
  rw [weight_zero] at hx hy
  rw [signedCode, signedCode, units, units]
  cases x.negative <;> cases y.negative <;> simp only [Bool.false_eq_true, if_true, if_false] <;>
    omega

/-- Binary64 numbers are in the order of their sizes. -/
theorem order_eq_units (x y : Binary64) : x.order y = TotalOrder.orderInt x.units y.units :=
  TotalOrder.orderInt_congr signedCode_lt_iff signedCode_lt_iff

/-! ## Integers -/

theorem weight_of_parts {shift digits : Nat} (hlow : 0x10000000000000 ≤ digits)
    (hhigh : digits < 0x20000000000000) :
    weight (shift * 0x10000000000000 + digits) = digits * twoTo shift := by
  have hscale : scale (shift * 0x10000000000000 + digits) = shift := by
    rw [scale]
    omega
  have hdigits : significand (shift * 0x10000000000000 + digits) = digits := by
    rw [significand, if_neg (by omega)]
    omega
  rw [weight, hscale, hdigits]

/-- A natural number up to 2⁵³ is the magnitude of a finite number. -/
theorem exists_weight_eq {n : Nat} (hpos : 0 < n) (h : n ≤ 0x20000000000000) :
    ∃ code, 0 < code ∧ code < 0x7FF0000000000000 ∧ weight code = n * twoTo 1074 := by
  rcases Nat.lt_or_eq_of_le h with hlt | rfl
  · -- `n` is moved up until its leading one is at place 52
    have hlog : n.log2 ≤ 52 := Nat.le_of_lt_succ (log2_lt_of_twoTo (by decide) hlt)
    have hlow : twoTo n.log2 ≤ n := Nat.log2_self_le (by omega)
    have hhigh : n < twoTo (n.log2 + 1) := Nat.lt_log2_self
    have hplaces : n.log2 + (52 - n.log2) = 52 := by omega
    have hplaces' : n.log2 + 1 + (52 - n.log2) = 53 := by omega
    have hmin := Nat.mul_le_mul_right (twoTo (52 - n.log2)) hlow
    have hmax := Nat.mul_lt_mul_of_pos_right hhigh (twoTo_pos (52 - n.log2))
    rw [← twoTo_add, hplaces] at hmin
    rw [← twoTo_add, hplaces'] at hmax
    have hlow' : 0x10000000000000 ≤ n * twoTo (52 - n.log2) := hmin
    have hhigh' : n * twoTo (52 - n.log2) < 0x20000000000000 := hmax
    refine ⟨(1022 + n.log2) * 0x10000000000000 + n * twoTo (52 - n.log2), by omega, by omega, ?_⟩
    rw [weight_of_parts hlow' hhigh', Nat.mul_assoc, ← twoTo_add,
      show 52 - n.log2 + (1022 + n.log2) = 1074 by omega]
  · refine ⟨1075 * 0x10000000000000 + 0x10000000000000, by decide, by decide, ?_⟩
    rw [weight_of_parts (Nat.le_refl _) (by decide), twoTo_succ 1074]
    omega

/-- A natural number up to 2⁵³ is its own nearest magnitude. -/
theorem weight_nearest {n : Nat} (h : n ≤ 0x20000000000000) :
    nearest n 1 < 0x7FF0000000000000 ∧ weight (nearest n 1) = n * twoTo 1074 := by
  rcases Nat.eq_zero_or_pos n with rfl | hpos
  · have hzero : nearest 0 1 = 0 := by simp [nearest, roundHalfEven]
    rw [hzero, weight_zero, Nat.zero_mul]
    exact ⟨by decide, rfl⟩
  · obtain ⟨code, hcode, hfinite, hweight⟩ := exists_weight_eq hpos h
    have hnearest : nearest n 1 = code :=
      nearest_of_nearby Nat.one_pos (nearby_self hcode Nat.one_pos (by rw [hweight, Nat.mul_one]))
    rw [hnearest]
    exact ⟨hfinite, hweight⟩

/-- An integer of magnitude at most 2⁵³ is its own nearest number. -/
theorem ofInt?_units {n : Int} (h : n.natAbs ≤ 0x20000000000000) :
    ∃ x, ofInt? n = some x ∧ x.units = n * twoTo 1074 := by
  obtain ⟨hfinite, hweight⟩ := weight_nearest h
  refine ⟨⟨decide (n < 0), nearest n.natAbs 1, hfinite⟩, ?_, ?_⟩
  · rw [ofInt?, ofRatio?, ofCode?, dif_pos hfinite]
  · simp only [units, hweight, decide_eq_true_eq]
    split
    · rw [Int.natCast_mul, ← Int.neg_mul]
      congr 1
      omega
    · rw [Int.natCast_mul]
      congr 1
      omega

end Binary64

end EntityQuery
