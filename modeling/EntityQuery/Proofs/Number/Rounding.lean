import EntityQuery.Proofs.Number.Nearest

/-!
# Rounding in order, and how far

Rounding to binary64 numbers keeps the order of what is rounded, up to ties, and it goes at most
half a step away.

* One binade.  `roundHalfEven_mono` and `roundHalfEven_near` are about rounding to integers.
* Two binades.  `nearest_le` and `le_nearest` say between which codes those of a binade lie.
* The results.  `nearest_mono`: a larger fraction is not rounded to a smaller code; and
  `nearest_integer`: the steps in which integers are rounded.
-/

namespace EntityQuery

namespace Binary64

/-! ## One binade -/

/-- Rounding to integers keeps order. -/
theorem roundHalfEven_mono {num num' : Nat} (den : Nat) (h : num ≤ num') :
    roundHalfEven num den ≤ roundHalfEven num' den := by
  have hquotient : num / den ≤ num' / den := Nat.div_le_div_right h
  by_cases hsame : num / den = num' / den
  · have hremainder : num % den ≤ num' % den := by
      have hdiv := Nat.div_add_mod num den
      have hdiv' := Nat.div_add_mod num' den
      rw [hsame] at hdiv
      omega
    simp only [roundHalfEven, hsame]
    repeat' split
    all_goals omega
  · have hbelow := roundHalfEven_le num den
    rcases roundHalfEven_cases num' den with hround | hround <;> omega

/-- Rounding goes at most half a unit away. -/
theorem roundHalfEven_near (num : Nat) {den : Nat} (hden : 0 < den) :
    2 * (roundHalfEven num den * den) ≤ 2 * num + den ∧
      2 * num ≤ 2 * (roundHalfEven num den * den) + den := by
  have hdiv := Nat.div_add_mod num den
  have hmod := Nat.mod_lt num hden
  rw [Nat.mul_comm] at hdiv
  rcases roundHalfEven_cases num den with hround | hround
  · rw [hround]
    have hhalf : 2 * (num % den) ≤ den := by
      simp only [roundHalfEven] at hround
      split at hround
      · omega
      · split at hround <;> omega
    omega
  · rw [hround, Nat.add_mul, Nat.one_mul]
    have hhalf : den ≤ 2 * (num % den) := by
      simp only [roundHalfEven] at hround
      split at hround <;> omega
    omega

theorem roundHalfEven_mul (num den : Nat) {c : Nat} (hc : 0 < c) :
    roundHalfEven (num * c) (den * c) = roundHalfEven num den := by
  have hlt : ∀ a b : Nat, 2 * (a * c) < b * c ↔ 2 * a < b := by
    intro a b
    rw [← Nat.mul_assoc]
    exact Nat.mul_lt_mul_right hc
  have hgt : ∀ a b : Nat, b * c < 2 * (a * c) ↔ b < 2 * a := by
    intro a b
    rw [← Nat.mul_assoc]
    exact Nat.mul_lt_mul_right hc
  simp only [roundHalfEven, Nat.mul_div_mul_right _ _ hc, Nat.mul_mod_mul_right, hlt, hgt]

/-! ## Two binades -/

/-- A quotient with the leading one of a binade is rounded to a code there at least. -/
theorem le_nearest {num den : Nat} (h : 52 < (num * twoTo 1074 / den).log2) :
    ((num * twoTo 1074 / den).log2 - 52) * 0x10000000000000 + 0x10000000000000 ≤
      nearest num den := by
  have hpositive : num * twoTo 1074 / den ≠ 0 := by
    intro hzero
    rw [hzero, Nat.log2_zero] at h
    omega
  have hleading : twoTo (num * twoTo 1074 / den).log2 ≤ num * twoTo 1074 / den :=
    Nat.log2_self_le hpositive
  simp only [nearest]
  generalize hshift : (num * twoTo 1074 / den).log2 - 52 = shift at *
  have hpower : twoTo (num * twoTo 1074 / den).log2 = 0x10000000000000 * twoTo shift := by
    rw [show (num * twoTo 1074 / den).log2 = 52 + shift by omega]
    exact twoTo_add ..
  have hsignificand : 0x10000000000000 ≤ num * twoTo 1074 / (den * twoTo shift) := by
    rw [← Nat.div_div_eq_div_mul, Nat.le_div_iff_mul_le (twoTo_pos shift)]
    omega
  have hround : num * twoTo 1074 / (den * twoTo shift) ≤
      roundHalfEven (num * twoTo 1074) (den * twoTo shift) := by
    rcases roundHalfEven_cases (num * twoTo 1074) (den * twoTo shift) with h | h <;> omega
  omega

theorem log2_le_log2 {m n : Nat} (h : m ≤ n) : m.log2 ≤ n.log2 := by
  by_cases hzero : m = 0
  · rw [hzero, Nat.log2_zero]
    exact Nat.zero_le _
  · apply (Nat.le_log2 (by omega)).2
    exact Nat.le_trans (Nat.log2_self_le hzero) h

/-! ## The results -/

/-- A larger fraction is not rounded to a smaller code. -/
theorem nearest_mono {num num' den : Nat} (hden : 0 < den) (h : num ≤ num') :
    nearest num den ≤ nearest num' den := by
  have hunits : num * twoTo 1074 ≤ num' * twoTo 1074 := Nat.mul_le_mul_right _ h
  have hlog : (num * twoTo 1074 / den).log2 ≤ (num' * twoTo 1074 / den).log2 :=
    log2_le_log2 (Nat.div_le_div_right hunits)
  by_cases hbinade : (num * twoTo 1074 / den).log2 - 52 = (num' * twoTo 1074 / den).log2 - 52
  · simp only [nearest, hbinade]
    exact Nat.add_le_add_left (roundHalfEven_mono _ hunits) _
  · -- the codes of the lower binade end where those of the next begin
    have htop : num * twoTo 1074 / den < twoTo ((num * twoTo 1074 / den).log2 + 1) :=
      Nat.lt_log2_self
    have hhigh := @le_nearest num' den
    generalize (num' * twoTo 1074 / den).log2 = k' at hlog hbinade hhigh
    generalize (num * twoTo 1074 / den).log2 = k at hlog hbinade htop
    have hlow : nearest num den ≤ (max 52 k - 52) * 0x10000000000000 + 0x20000000000000 := by
      apply nearest_le (Nat.le_max_left ..)
      apply (Nat.div_lt_iff_lt_mul hden).1
      exact Nat.lt_of_lt_of_le htop (twoTo_le_twoTo (by omega))
    have hcode := hhigh (by omega)
    omega

/-- An integer from `2 ^ k` to below `2 ^ (k + 1)` is rounded in steps of `2 ^ (k - 52)`. -/
theorem nearest_integer {n k : Nat} (hk : 52 ≤ k) (hlow : twoTo k ≤ n)
    (hhigh : n < twoTo (k + 1)) :
    nearest n 1 = (k + 1022) * 0x10000000000000 + roundHalfEven n (twoTo (k - 52)) := by
  have hunits := twoTo_pos 1074
  have hlog : (n * twoTo 1074 / 1).log2 = k + 1074 := by
    rw [Nat.div_one]
    apply log2_eq_of_twoTo
    · rw [twoTo_add]
      exact Nat.mul_le_mul_right _ hlow
    · rw [Nat.add_right_comm, twoTo_add]
      exact Nat.mul_lt_mul_of_pos_right hhigh hunits
  have hshift : k + 1074 - 52 = k + 1022 := by omega
  have hstep : 1 * twoTo (k + 1022) = twoTo (k - 52) * twoTo 1074 := by
    rw [Nat.one_mul, ← twoTo_add]
    congr 1
    omega
  simp only [nearest, hlog, hshift, hstep, roundHalfEven_mul _ _ hunits]

end Binary64

end EntityQuery
