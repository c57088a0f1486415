import EntityQuery.Number.Shortest

/-!
# The nearest binary64 magnitude

`Binary64.nearest` takes a fraction to the code of the magnitude nearest to it.
A fraction belongs to a code if it lies between the points halfway to the two
neighbours of its magnitude, where a point halfway belongs to the even code.
`Nearby` says this, and `nearest_of_nearby` is the result: a fraction that
belongs to a code is taken to that code.

* Codes.  A code is `scale * 2 ^ 52 + significand`, and `weight_succ` says how
  far the next magnitude is.
* Rounding.  `roundHalfEven_eq` is the rule of rounding to integers.
* The binade of a fraction.  `log2_div_eq` says which power of two a quotient has.
  A fraction just below the least magnitude of a binade is rounded in the binade
  below, and carries into the one above; `nearest_below_binade` is that case.
-/

namespace EntityQuery

theorem twoTo_add (m n : Nat) : twoTo (m + n) = twoTo m * twoTo n := Nat.pow_add 2 m n

theorem tenTo_add (m n : Nat) : tenTo (m + n) = tenTo m * tenTo n := Nat.pow_add 10 m n

theorem tenTo_eq (n : Nat) : tenTo n = twoTo n * Nat.pow 5 n := Nat.mul_pow 2 5 n

theorem twoTo_le_twoTo {m n : Nat} (h : m ≤ n) : twoTo m ≤ twoTo n :=
  Nat.pow_le_pow_right (by decide) h

theorem tenTo_le_tenTo {m n : Nat} (h : m ≤ n) : tenTo m ≤ tenTo n :=
  Nat.pow_le_pow_right (by decide) h

theorem log2_eq_of_twoTo {n k : Nat} (hlow : twoTo k ≤ n) (hhigh : n < twoTo (k + 1)) :
    n.log2 = k := by
  have hn : n ≠ 0 := by
    have := twoTo_pos k
    omega
  exact (Nat.log2_eq_iff hn).2 ⟨hlow, hhigh⟩

theorem log2_lt_of_twoTo {n k : Nat} (hk : 0 < k) (h : n < twoTo k) : n.log2 < k := by
  by_cases hn : n = 0
  · rw [hn, Nat.log2_zero]
    exact hk
  · exact (Nat.log2_lt hn).2 h

namespace Binary64

/-! ## Codes -/

theorem code_eq (code : Nat) : code = scale code * 0x10000000000000 + significand code := by
  rw [scale, significand]
  split <;> omega

theorem significand_lt (code : Nat) : significand code < 0x20000000000000 := by
  unfold significand
  split <;> omega

theorem le_significand {code : Nat} (h : 0 < scale code) :
    0x10000000000000 ≤ significand code := by
  unfold significand
  split
  · next hlt => rw [scale] at h; omega
  · omega

/-- The next magnitude is one unit of the last place away. -/
theorem weight_succ (code : Nat) : weight (code + 1) = weight code + twoTo (scale code) := by
  by_cases hcarry : scale (code + 1) = scale code
  · have hsig : significand (code + 1) = significand code + 1 := by
      have h := code_eq code
      have h' := code_eq (code + 1)
      rw [hcarry] at h'
      omega
    rw [weight, weight, hcarry, hsig, Nat.add_mul, Nat.one_mul]
  · have hscale : scale (code + 1) = scale code + 1 := by
      rw [scale, scale] at *
      omega
    have hsig : significand (code + 1) = 0x10000000000000 ∧
        significand code = 0x1FFFFFFFFFFFFF := by
      have h := code_eq code
      have h' := code_eq (code + 1)
      have hlt := significand_lt code
      have hle := @le_significand (code + 1) (by omega)
      rw [hscale] at h'
      omega
    rw [weight, weight, hscale, hsig.1, hsig.2, twoTo_succ]
    omega

theorem weight_zero : weight 0 = 0 := by
  rw [weight, significand, if_pos (by decide), Nat.zero_mul]

theorem scale_pred_le (code : Nat) : scale (code - 1) ≤ scale code := by
  rw [scale, scale]
  omega

/-- The magnitude before is at most one unit of the last place away. -/
theorem weight_le_pred (code : Nat) :
    weight code ≤ weight (code - 1) + twoTo (scale code) := by
  cases code with
  | zero =>
    rw [weight_zero]
    exact Nat.zero_le _
  | succ code =>
    rw [Nat.add_sub_cancel, weight_succ]
    have := twoTo_le_twoTo (scale_pred_le (code + 1))
    rw [Nat.add_sub_cancel] at this
    omega

theorem weight_pos {code : Nat} (h : 0 < code) : 0 < weight code := by
  obtain ⟨before, rfl⟩ : ∃ before, code = before + 1 := ⟨code - 1, by omega⟩
  rw [weight_succ]
  have := twoTo_pos (scale before)
  omega

theorem weight_pred_lt {code : Nat} (h : 0 < code) : weight (code - 1) < weight code := by
  obtain ⟨before, rfl⟩ : ∃ before, code = before + 1 := ⟨code - 1, by omega⟩
  rw [weight_succ, Nat.add_sub_cancel]
  have := twoTo_pos (scale before)
  omega

theorem weight_lt_succ (code : Nat) : weight code < weight (code + 1) :=
  weight_pred_lt (Nat.succ_pos code)

/-! ## Rounding -/

/-- A fraction at most one half from an integer is rounded to it; if the integer is odd it has
to be nearer than that. -/
theorem roundHalfEven_eq {num den n : Nat} (hden : 0 < den)
    (hlow : 2 * (n * den) ≤ 2 * num + den) (hhigh : 2 * num ≤ 2 * (n * den) + den)
    (hodd : n % 2 = 1 → 2 * (n * den) < 2 * num + den ∧ 2 * num < 2 * (n * den) + den) :
    roundHalfEven num den = n := by
  have hdiv : num / den * den + num % den = num := by
    rw [Nat.mul_comm]
    exact Nat.div_add_mod num den
  have hmod := Nat.mod_lt num hden
  have hquotient : num / den = n ∨ num / den + 1 = n := by
    rcases Nat.lt_trichotomy (num / den) n with hlt | heq | hgt
    · right
      have hle : n < num / den + 2 := by
        apply Nat.lt_of_not_le
        intro h
        have := Nat.mul_le_mul_right den h
        rw [Nat.add_mul] at this
        omega
      omega
    · exact .inl heq
    · have := Nat.mul_le_mul_right den (Nat.succ_le_of_lt hgt)
      rw [Nat.succ_mul] at this
      omega
  simp only [roundHalfEven]
  rcases hquotient with rfl | rfl
  · split
    · rfl
    · split <;> omega
  · rw [Nat.add_mul, Nat.one_mul] at *
    split
    · omega
    · split
      · rfl
      · omega

/-- Rounding gives an integer next to the fraction. -/
theorem roundHalfEven_cases (num den : Nat) :
    roundHalfEven num den = num / den ∨ roundHalfEven num den = num / den + 1 := by
  simp only [roundHalfEven]
  split
  · exact .inl rfl
  · split
    · exact .inr rfl
    · omega

theorem roundHalfEven_le (num den : Nat) : roundHalfEven num den ≤ num / den + 1 := by
  rcases roundHalfEven_cases num den with h | h
  · rw [h]
    exact Nat.le_succ _
  · exact Nat.le_of_eq h

/-- A quotient below a power of two is rounded to a code of the binade there at most. -/
theorem nearest_le {num den k : Nat} (hk : 52 ≤ k)
    (h : num * twoTo 1074 < twoTo (k + 1) * den) :
    nearest num den ≤ (k - 52) * 0x10000000000000 + 0x20000000000000 := by
  have hden : 0 < den := Nat.pos_of_lt_mul_left h
  have hlog : (num * twoTo 1074 / den).log2 < k + 1 :=
    log2_lt_of_twoTo (Nat.succ_pos k) ((Nat.div_lt_iff_lt_mul hden).2 h)
  have hquotient : num * twoTo 1074 / den < twoTo ((num * twoTo 1074 / den).log2 + 1) :=
    Nat.lt_log2_self
  generalize hshift : (num * twoTo 1074 / den).log2 - 52 = shift at *
  have htop : twoTo ((num * twoTo 1074 / den).log2 + 1) ≤ twoTo (53 + shift) :=
    twoTo_le_twoTo (by omega)
  have hrounded : roundHalfEven (num * twoTo 1074) (den * twoTo shift) ≤ 0x20000000000000 := by
    refine Nat.le_trans (roundHalfEven_le _ _) (Nat.succ_le_of_lt ?_)
    rw [← Nat.div_div_eq_div_mul, Nat.div_lt_iff_lt_mul (twoTo_pos shift)]
    have hpower : twoTo (53 + shift) = 0x20000000000000 * twoTo shift := twoTo_add ..
    omega
  have hle : shift ≤ k - 52 := by omega
  simp only [nearest, hshift]
  exact Nat.add_le_add (Nat.mul_le_mul_right 0x10000000000000 hle) hrounded

/-! ## Fractions that belong to a code -/

/-- The fraction `num / den` belongs to a code: it lies between the points halfway to the
neighbours, and at such a point only if the code is even. -/
structure Nearby (code num den : Nat) : Prop where
  lower : lowerHalfway code * den ≤ num * twoTo 1075
  upper : num * twoTo 1075 ≤ upperHalfway code * den
  odd : code % 2 = 1 →
    lowerHalfway code * den < num * twoTo 1075 ∧ num * twoTo 1075 < upperHalfway code * den

/-- Equal fractions belong to the same codes. -/
theorem Nearby.congr {code num den num' den' : Nat} (h : Nearby code num den) (hden : 0 < den)
    (hden' : 0 < den') (heq : num * den' = num' * den) : Nearby code num' den' := by
  have hscale : num * twoTo 1075 * den' = num' * twoTo 1075 * den := by
    rw [Nat.mul_right_comm, heq, Nat.mul_right_comm]
  have hlower : lowerHalfway code * den * den' = lowerHalfway code * den' * den :=
    Nat.mul_right_comm ..
  have hupper : upperHalfway code * den * den' = upperHalfway code * den' * den :=
    Nat.mul_right_comm ..
  refine ⟨?_, ?_, fun hcode => ⟨?_, ?_⟩⟩
  · have := Nat.mul_le_mul_right den' h.lower
    rw [hscale, hlower] at this
    exact Nat.le_of_mul_le_mul_right this hden
  · have := Nat.mul_le_mul_right den' h.upper
    rw [hscale, hupper] at this
    exact Nat.le_of_mul_le_mul_right this hden
  · have := Nat.mul_lt_mul_of_pos_right (h.odd hcode).1 hden'
    rw [hscale, hlower] at this
    exact Nat.lt_of_mul_lt_mul_right this
  · have := Nat.mul_lt_mul_of_pos_right (h.odd hcode).2 hden'
    rw [hscale, hupper] at this
    exact Nat.lt_of_mul_lt_mul_right this

/-- A magnitude belongs to its own code. -/
theorem nearby_self {code num den : Nat} (hcode : 0 < code) (hden : 0 < den)
    (heq : num * twoTo 1074 = weight code * den) : Nearby code num den := by
  have hnum : num * twoTo 1075 = 2 * (weight code * den) := by
    rw [twoTo_succ 1074, ← Nat.mul_assoc, heq, Nat.mul_comm]
  have hlow : lowerHalfway code * den < 2 * (weight code * den) := by
    rw [← Nat.mul_assoc]
    refine Nat.mul_lt_mul_of_pos_right ?_ hden
    rw [lowerHalfway, Nat.two_mul]
    exact Nat.add_lt_add_right (weight_pred_lt hcode) _
  have hhigh : 2 * (weight code * den) < upperHalfway code * den := by
    rw [← Nat.mul_assoc]
    refine Nat.mul_lt_mul_of_pos_right ?_ hden
    rw [upperHalfway, Nat.two_mul]
    exact Nat.add_lt_add_left (weight_lt_succ code) _
  rw [← hnum] at hlow hhigh
  exact ⟨Nat.le_of_lt hlow, Nat.le_of_lt hhigh, fun _ => ⟨hlow, hhigh⟩⟩

/-! ## The binade of a fraction -/

theorem log2_div_eq {num den k : Nat} (hden : 0 < den) (hlow : twoTo k * den ≤ num)
    (hhigh : num < twoTo (k + 1) * den) : (num / den).log2 = k :=
  log2_eq_of_twoTo ((Nat.le_div_iff_mul_le hden).2 hlow) ((Nat.div_lt_iff_lt_mul hden).2 hhigh)

/-- A fraction in the binade of the code, or in the one without a leading one, is rounded in
steps of the code. -/
theorem nearest_in_binade {code num den : Nat} (hden : 0 < den)
    (h : Nearby code num den)
    (hbinade : scale code = 0 ∨ twoTo (52 + scale code) * den ≤ num * twoTo 1074) :
    nearest num den = code := by
  have hlower := h.lower
  have hupper := h.upper
  have hodd := h.odd
  have hpred := Nat.mul_le_mul_right den (weight_le_pred code)
  have hsig := significand_lt code
  have hcode := code_eq code
  -- everything is measured in `step`, the unit of the last place times the denominator
  have hweight : weight code * den = significand code * (den * twoTo (scale code)) := by
    rw [weight, Nat.mul_assoc, Nat.mul_comm den]
  have hunit : twoTo (scale code) * den = den * twoTo (scale code) := Nat.mul_comm ..
  have hstep : 0 < den * twoTo (scale code) := Nat.mul_pos hden (twoTo_pos _)
  rw [lowerHalfway, Nat.add_mul] at hlower hodd
  rw [upperHalfway, weight_succ, Nat.add_mul, Nat.add_mul] at hupper hodd
  rw [Nat.add_mul, hunit] at hpred
  rw [twoTo_succ 1074, ← Nat.mul_assoc] at hlower hupper hodd
  have hlow : 2 * (significand code * (den * twoTo (scale code))) ≤
      2 * (num * twoTo 1074) + den * twoTo (scale code) := by omega
  have hhigh : 2 * (num * twoTo 1074) ≤
      2 * (significand code * (den * twoTo (scale code))) + den * twoTo (scale code) := by omega
  have hshift : (num * twoTo 1074 / den).log2 - 52 = scale code := by
    have htop : num * twoTo 1074 < twoTo (53 + scale code) * den := by
      have hmax := Nat.mul_le_mul_right (den * twoTo (scale code)) (Nat.le_sub_one_of_lt hsig)
      rw [Nat.sub_mul, Nat.one_mul] at hmax
      have hpower : twoTo (53 + scale code) * den =
          0x20000000000000 * (den * twoTo (scale code)) := by
        rw [twoTo_add, Nat.mul_assoc, hunit]
        rfl
      omega
    rcases hbinade with hzero | hle
    · have hlog := log2_lt_of_twoTo (by omega) ((Nat.div_lt_iff_lt_mul hden).2 htop)
      omega
    · have hnext : 53 + scale code = 52 + scale code + 1 := by omega
      rw [hnext] at htop
      have hlog := log2_div_eq hden hle htop
      omega
  have hround : roundHalfEven (num * twoTo 1074) (den * twoTo (scale code)) =
      significand code := by
    apply roundHalfEven_eq hstep hlow hhigh
    intro hparity
    have := hodd (by omega)
    omega
  simp only [nearest, hshift, hround]
  exact hcode.symm

/-- A fraction below the binade of the code is rounded in the binade below, where the code is
one more than the greatest significand. -/
theorem nearest_below_binade {code num den : Nat} (hden : 0 < den)
    (h : Nearby code num den) (hscale : 0 < scale code)
    (hbinade : num * twoTo 1074 < twoTo (52 + scale code) * den) :
    nearest num den = code := by
  have hlower := h.lower
  have hcode := code_eq code
  have hsig := le_significand hscale
  obtain ⟨shift, hshiftEq⟩ : ∃ shift, scale code = shift + 1 := ⟨scale code - 1, by omega⟩
  rw [hshiftEq] at hbinade hcode
  -- `step` is the unit of the binade below, half of that of the code
  have hunit : twoTo shift * den = den * twoTo shift := Nat.mul_comm ..
  have hstep : 0 < den * twoTo shift := Nat.mul_pos hden (twoTo_pos _)
  have hpower : twoTo (52 + (shift + 1)) * den = 0x20000000000000 * (den * twoTo shift) := by
    rw [show 52 + (shift + 1) = 53 + shift by omega, twoTo_add, Nat.mul_assoc, hunit]
    rfl
  have hweight : weight code * den = 2 * (significand code * (den * twoTo shift)) := by
    rw [weight, hshiftEq, twoTo_succ, Nat.mul_assoc, Nat.mul_comm (twoTo shift * 2),
      ← Nat.mul_assoc den, ← Nat.mul_assoc, Nat.mul_comm _ 2]
  have hpred := Nat.mul_le_mul_right den (weight_le_pred code)
  rw [Nat.add_mul, hshiftEq, twoTo_succ, Nat.mul_right_comm, hunit] at hpred
  rw [lowerHalfway, Nat.add_mul, twoTo_succ 1074, ← Nat.mul_assoc] at hlower
  have hleast : significand code = 0x10000000000000 := by
    apply Nat.le_antisymm _ hsig
    apply Nat.le_of_not_lt
    intro hmore
    have := Nat.mul_le_mul_right (den * twoTo shift) (Nat.succ_le_of_lt hmore)
    rw [Nat.succ_mul] at this
    omega
  have hpredWeight : weight (code - 1) * den = 0x1FFFFFFFFFFFFF * (den * twoTo shift) := by
    have hbefore : scale (code - 1) = shift := by
      unfold scale
      omega
    have hsigBefore : significand (code - 1) = 0x1FFFFFFFFFFFFF := by
      have hbeforeCode := code_eq (code - 1)
      rw [hbefore] at hbeforeCode
      omega
    rw [weight, hbefore, hsigBefore, Nat.mul_assoc, hunit]
  rw [hleast] at hweight
  have hshift : (num * twoTo 1074 / den).log2 - 52 = shift := by
    have hlow : twoTo (52 + shift) * den ≤ num * twoTo 1074 := by
      have hhalf : twoTo (52 + shift) * den = 0x10000000000000 * (den * twoTo shift) := by
        rw [twoTo_add, Nat.mul_assoc, hunit]
        rfl
      omega
    have hlog := log2_div_eq hden hlow hbinade
    omega
  have hround : roundHalfEven (num * twoTo 1074) (den * twoTo shift) = 0x20000000000000 :=
    roundHalfEven_eq hstep (by omega) (by omega) fun hparity => by omega
  simp only [nearest, hshift, hround]
  omega

/-- A fraction that belongs to a code is rounded to it. -/
theorem nearest_of_nearby {code num den : Nat} (hden : 0 < den) (h : Nearby code num den) :
    nearest num den = code := by
  by_cases hscale : scale code = 0
  · exact nearest_in_binade hden h (.inl hscale)
  · by_cases hbinade : num * twoTo 1074 < twoTo (52 + scale code) * den
    · exact nearest_below_binade hden h (Nat.pos_of_ne_zero hscale) hbinade
    · exact nearest_in_binade hden h (.inr (Nat.le_of_not_lt hbinade))

end Binary64

end EntityQuery
