import EntityQuery.Proofs.Json.SelfComparison
import EntityQuery.Proofs.Json.SortOrder
import EntityQuery.Proofs.Number.Rounding

/-!
# How integers compare

Integers of JSON compare exactly if both are signed integers of 64 bits.  Otherwise they compare
as the binary64 numbers that are nearest to them, and two integers that have the same nearest
number are taken for equal; `JsonInt.Merged` is that two different integers are.

* Rounding.  `JsonInt.rounded` is the nearest number, which is always finite.
* Merged integers.  `JsonInt.Merged.near`: they are just below 2⁶³ at least, and near to each
  other.  `JsonInt.not_merged_of_far` is what that means for filters and sorts.
* Comparing.  `JsonNumber.order?_integer`: integers compare by size, unless they are merged.
* Reading back.  `JsonNumber.order?_reread_integer`: what comes back of the text of an integer
  compares as the integer does.
-/

namespace EntityQuery

open TotalOrder (orderInt orderInt_lt_iff orderInt_eq_iff orderInt_swap)

/-! ## Rounding -/

namespace JsonInt

/-- An integer of JSON is below the binary64 numbers that are not finite. -/
theorem nearest_natAbs_lt (n : JsonInt) :
    Binary64.nearest n.val.natAbs 1 < 0x7FF0000000000000 := by
  have hlower := n.lower
  have hupper := n.upper
  obtain ⟨x, hx⟩ := JsonNumber.ofInt?_isSome (n := n.val.natAbs) (by omega)
  rw [Binary64.ofInt?, Int.natAbs_natCast, Binary64.ofRatio?, Binary64.ofCode?] at hx
  split at hx
  · assumption
  · cases hx

/-- The binary64 number nearest to the integer. -/
def rounded (n : JsonInt) : Binary64 :=
  ⟨n.val < 0, Binary64.nearest n.val.natAbs 1, n.nearest_natAbs_lt⟩

theorem binary64?_integer (n : JsonInt) : (JsonNumber.integer n).binary64? = some n.rounded := by
  show Binary64.ofInt? n.val = _
  rw [Binary64.ofInt?, Binary64.ofRatio?, Binary64.ofCode?, dif_pos n.nearest_natAbs_lt]
  rfl

theorem signedCode_rounded (n : JsonInt) :
    n.rounded.signedCode =
      if n.val < 0 then -(Binary64.nearest n.val.natAbs 1 : Int)
      else Binary64.nearest n.val.natAbs 1 := by
  simp [Binary64.signedCode, rounded]

/-- A larger integer has no smaller nearest number. -/
theorem signedCode_rounded_mono {m n : JsonInt} (h : m.val ≤ n.val) :
    m.rounded.signedCode ≤ n.rounded.signedCode := by
  rw [signedCode_rounded, signedCode_rounded]
  by_cases hnegative : n.val < 0
  · -- both are negative, and their magnitudes are the other way round
    have hmagnitude := @Binary64.nearest_mono _ _ 1 Nat.one_pos
      (show n.val.natAbs ≤ m.val.natAbs by omega)
    rw [if_pos (by omega), if_pos hnegative]
    omega
  · rw [if_neg hnegative]
    by_cases hmixed : m.val < 0
    · rw [if_pos hmixed]
      omega
    · have hmagnitude := @Binary64.nearest_mono _ _ 1 Nat.one_pos
        (show m.val.natAbs ≤ n.val.natAbs by omega)
      rw [if_neg hmixed]
      omega

/-! ## Comparing -/

/-- Whether both integers are signed integers of 64 bits. -/
def BothSigned (m n : JsonInt) : Prop :=
  m.val ≤ 9223372036854775807 ∧ n.val ≤ 9223372036854775807

instance (m n : JsonInt) : Decidable (BothSigned m n) := inferInstanceAs (Decidable (_ ∧ _))

/-- Whether two integers are different and taken for equal: one of them is beyond the signed
integers of 64 bits, and their nearest binary64 numbers are the same. -/
def Merged (m n : JsonInt) : Prop :=
  m.val ≠ n.val ∧ ¬BothSigned m n ∧ m.rounded.same n.rounded = true

instance (m n : JsonInt) : Decidable (Merged m n) := inferInstanceAs (Decidable (_ ∧ _ ∧ _))

theorem Merged.symm {m n : JsonInt} (h : Merged m n) : Merged n m := by
  obtain ⟨hne, hsigned, hsame⟩ := h
  refine ⟨hne.symm, fun hback => hsigned ⟨hback.2, hback.1⟩, ?_⟩
  rw [Binary64.same, beq_iff_eq] at *
  exact hsame.symm

/-- How two integers are compared: by size, where merged integers count as equal. -/
def compared (m n : JsonInt) : Ordering := if Merged m n then .eq else orderInt m.val n.val

/-- The first of two integers counts as the larger if it is larger and not merged with the
other. -/
theorem compared_eq_gt_iff {m n : JsonInt} :
    m.compared n = .gt ↔ n.val < m.val ∧ ¬Merged m n := by
  unfold compared
  split
  · next hmerged => simp [hmerged]
  · next hmerged =>
    rw [orderInt_swap n.val m.val]
    simp [hmerged, Ordering.swap_eq_gt, orderInt_lt_iff]

/-- The nearest numbers of integers that are not merged are in the order of the integers. -/
theorem signedCode_rounded_lt_iff {m n : JsonInt} (hsigned : ¬BothSigned m n)
    (hmerged : ¬Merged m n) : m.rounded.signedCode < n.rounded.signedCode ↔ m.val < n.val := by
  constructor
  · intro hlt
    apply Int.lt_of_not_ge
    intro hle
    have hrounded := signedCode_rounded_mono hle
    omega
  · intro hlt
    have hrounded := signedCode_rounded_mono (Int.le_of_lt hlt)
    have hdistinct : m.rounded.signedCode ≠ n.rounded.signedCode := by
      intro hsame
      exact hmerged ⟨by omega, hsigned, beq_iff_eq.2 hsame⟩
    omega

/-- The nearest numbers of two integers compare as the integers are to be compared. -/
theorem order_rounded {m n : JsonInt} (hsigned : ¬BothSigned m n) :
    m.rounded.order n.rounded = m.compared n := by
  unfold compared
  split
  · next hmerged =>
    obtain ⟨-, -, hsame⟩ := hmerged
    exact orderInt_eq_iff.2 (beq_iff_eq.1 hsame)
  · next hmerged =>
    apply TotalOrder.orderInt_congr
    · exact signedCode_rounded_lt_iff hsigned hmerged
    · apply signedCode_rounded_lt_iff
      · exact fun hback => hsigned hback.symm
      · exact fun hback => hmerged hback.symm

/-! ## Merged integers -/

/-- The nearest number of an integer from 2⁶³ on. -/
theorem signedCode_rounded_large {n : JsonInt} (h : 9223372036854775808 ≤ n.val) :
    n.rounded.signedCode =
      1085 * 0x10000000000000 + (Binary64.roundHalfEven n.val.natAbs 2048 : Int) := by
  have hupper := n.upper
  have hnearest := @Binary64.nearest_integer n.val.natAbs 63 (by decide)
    (show 9223372036854775808 ≤ _ by omega) (show _ < 18446744073709551616 by omega)
  rw [signedCode_rounded, if_neg (by omega), hnearest]
  rfl

/-- The lesser of two merged integers is just below 2⁶³ at least, and near to the greater. -/
theorem Merged.near_of_lt {m n : JsonInt} (h : Merged m n) (hlt : m.val < n.val) :
    9223372036854775296 ≤ m.val ∧ n.val ≤ m.val + 2048 := by
  obtain ⟨-, hsigned, hsame⟩ := h
  have hequal : m.rounded.signedCode = n.rounded.signedCode := beq_iff_eq.1 hsame
  have hlarge : 9223372036854775808 ≤ n.val := by
    apply Int.le_of_not_gt
    intro hsmall
    exact hsigned ⟨by omega, by omega⟩
  have hn := signedCode_rounded_large hlarge
  have hnear := Binary64.roundHalfEven_near n.val.natAbs (show 0 < 2048 by decide)
  by_cases hboth : 9223372036854775808 ≤ m.val
  · have hm := signedCode_rounded_large hboth
    have hnear' := Binary64.roundHalfEven_near m.val.natAbs (show 0 < 2048 by decide)
    omega
  · -- the lesser one is rounded up to 2⁶³, and the greater one down to it
    let top : JsonInt := ⟨9223372036854775808, by decide, by decide⟩
    let below : JsonInt := ⟨9223372036854775295, by decide, by decide⟩
    have htop : top.rounded.signedCode = 1085 * 0x10000000000000 + 0x10000000000000 := by
      decide +kernel
    have hbelow : below.rounded.signedCode < top.rounded.signedCode := by decide +kernel
    have htopn : top.rounded.signedCode ≤ n.rounded.signedCode := signedCode_rounded_mono hlarge
    have hmtop : m.rounded.signedCode ≤ top.rounded.signedCode :=
      signedCode_rounded_mono (show m.val ≤ 9223372036854775808 by omega)
    have hleast : 9223372036854775296 ≤ m.val := by
      apply Int.le_of_not_gt
      intro hfar
      have hmbelow : m.rounded.signedCode ≤ below.rounded.signedCode :=
        signedCode_rounded_mono (show m.val ≤ 9223372036854775295 by omega)
      omega
    omega

/-- Merged integers are just below 2⁶³ at least, and near to each other. -/
theorem Merged.near {m n : JsonInt} (h : Merged m n) :
    9223372036854775296 ≤ m.val ∧ (m.val - n.val).natAbs ≤ 2048 := by
  rcases Int.lt_trichotomy m.val n.val with hlt | heq | hgt
  · have hnear := h.near_of_lt hlt
    omega
  · exact absurd heq h.1
  · have hnear := h.symm.near_of_lt hgt
    omega

/-- An integer is not merged with another if it is small enough or far enough from it. -/
theorem not_merged_of_far {m n : JsonInt}
    (h : m.val < 9223372036854775296 ∨ 2048 < (m.val - n.val).natAbs) : ¬m.Merged n := by
  intro hmerged
  have hnear := hmerged.near
  omega

end JsonInt

/-! ## Numbers -/

namespace JsonNumber

theorem int64?_integer (n : JsonInt) :
    (integer n).int64?.isSome = true ↔ n.val ≤ 9223372036854775807 := by
  rw [int64?]
  split <;> simp [*]

/-- Numbers that are not both signed integers of 64 bits compare as their nearest binary64
numbers. -/
theorem order?_of_binary64 {m n : JsonNumber} {x y : Binary64} (hx : m.binary64? = some x)
    (hy : n.binary64? = some y) (h : ¬(m.int64?.isSome = true ∧ n.int64?.isSome = true)) :
    m.order? n = some (x.order y) := by
  rw [order?]
  split
  · next i j hi hj => exact absurd (by simp [hi, hj]) h
  · simp only [hx, hy]

/-- Integers compare by size, unless they are merged. -/
theorem order?_integer (m n : JsonInt) : (integer m).order? (integer n) = some (m.compared n) := by
  by_cases hsigned : m.BothSigned n
  · have hunmerged : ¬m.Merged n := fun h => h.2.1 hsigned
    rw [order?_eq_units (.inl ⟨(int64?_integer m).2 hsigned.1, (int64?_integer n).2 hsigned.2⟩),
      orderInt_units, JsonInt.compared, if_neg hunmerged]
  · rw [order?_of_binary64 m.binary64?_integer n.binary64?_integer, JsonInt.order_rounded hsigned]
    rw [int64?_integer, int64?_integer]
    exact hsigned

/-! ## Reading back -/

/-- An integer is compared with what the text of another is read as, as it is with the other. -/
theorem order?_reread_integer (m n : JsonInt) :
    (integer m).order? (integer n).reread = some (m.compared n) := by
  rw [reread]
  split
  · exact order?_integer m n
  · next hlarge =>
    have hsigned : ¬m.BothSigned n := fun h => hlarge h.2
    have hfloat : Binary64.ofInt? n.val = some n.rounded := n.binary64?_integer
    rw [hfloat, Option.elim_some, order?_float m.binary64?_integer,
      JsonInt.order_rounded hsigned]

end JsonNumber

end EntityQuery
