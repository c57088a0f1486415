import EntityQuery.Number.Power
import EntityQuery.Text.Digits

/-!
# Decimal text read back

What is written in decimal digits is read back as the same number.  There are
three groups.

* Runs of digits.  `splitDigits_append` says where a run of digits ends, and
  `foldDigits_append` reads a run in two pieces.
* Integers.  `readInt?_intDigits` reads an integer back and `readInt64?_intDigits`
  an integer that fits 64 bits; `readInt64?_of_not_digits` refuses a run that has
  anything else in it.
* Fixed widths.  `padded_length` and `foldDigits_padded` are about numbers with
  zeros in front, which calendars are made of.
-/

namespace EntityQuery.Text

/-! ## Runs of digits -/

/-- No digit comes next. -/
def NoDigitNext (cs : List Char) : Prop := ∀ c ∈ cs.head?, c.isDigit = false

theorem noDigitNext_nil : NoDigitNext [] := by
  intro c hc
  cases hc

theorem splitDigits_append {run rest : List Char} (hrun : ∀ c ∈ run, c.isDigit = true)
    (hrest : NoDigitNext rest) : splitDigits (run ++ rest) = (run, rest) := by
  rw [splitDigits, List.takeWhile_append_of_pos hrun, List.dropWhile_append_of_pos hrun]
  cases rest with
  | nil => simp
  | cons c cs =>
    have hc : c.isDigit = false := hrest c rfl
    rw [List.takeWhile_cons_of_neg (by simp [hc]), List.dropWhile_cons_of_neg (by simp [hc])]
    simp

theorem splitDigits_self {run : List Char} (hrun : ∀ c ∈ run, c.isDigit = true) :
    splitDigits run = (run, []) := by
  have h := splitDigits_append hrun noDigitNext_nil
  rwa [List.append_nil] at h

theorem foldDigits_append (start : Nat) (run more : List Char) :
    foldDigits start (run ++ more) = foldDigits (foldDigits start run) more :=
  List.foldl_append

theorem foldDigits_zeros (start count : Nat) :
    foldDigits start (List.replicate count '0') = start * tenTo count := by
  induction count generalizing start with
  | zero => exact (Nat.mul_one start).symm
  | succ count ih =>
    have hstep : foldDigits start (List.replicate (count + 1) '0') =
        foldDigits (10 * start + 0) (List.replicate count '0') := rfl
    rw [hstep, ih, tenTo_succ, Nat.add_zero, Nat.mul_comm 10 start, Nat.mul_assoc,
      Nat.mul_comm 10]

theorem isDigit_of_mem_zeros {count : Nat} {c : Char} (h : c ∈ List.replicate count '0') :
    c.isDigit = true := by
  rw [List.eq_of_mem_replicate h]
  decide

/-! ## Integers -/

theorem natDigits_ne_nil (n : Nat) : natDigits n ≠ [] := Nat.toDigits_ne_nil

theorem isDigit_of_mem_natDigits {n : Nat} {c : Char} (h : c ∈ natDigits n) :
    c.isDigit = true :=
  Nat.isDigit_of_mem_toDigits (by decide) (by decide) h

/-- The digits of a number are those of the number. -/
theorem foldDigits_natDigits (n : Nat) : foldDigits 0 (natDigits n) = n :=
  Nat.ofDigitChars_ten_toDigits

/-- The digits of a number other than zero do not begin with a zero. -/
theorem head?_natDigits_ne_zero {n : Nat} (h : 0 < n) : (natDigits n).head? ≠ some '0' := by
  induction n using Nat.strongRecOn with
  | ind n ih =>
    unfold natDigits
    by_cases hsmall : n < 10
    · have hdigit : ∀ d < 10, 0 < d → Nat.digitChar d ≠ '0' := by decide
      rw [Nat.toDigits_of_lt_base hsmall, List.head?_cons]
      exact fun heq => hdigit n hsmall h (Option.some.inj heq)
    · have hfront := ih (n / 10) (by omega) (by omega)
      obtain ⟨d, ds, hdigits⟩ := List.exists_cons_of_ne_nil (natDigits_ne_nil (n / 10))
      rw [hdigits] at hfront
      rw [Nat.toDigits_of_base_le (by decide) (by omega)]
      show (natDigits (n / 10) ++ _).head? ≠ some '0'
      rw [hdigits]
      exact hfront

theorem natDigits_ne_zero_cons (n : Nat) {d : Char} {ds : List Char} :
    natDigits n ≠ '0' :: d :: ds := by
  intro h
  rcases Nat.eq_zero_or_pos n with rfl | hpos
  · cases h
  · exact head?_natDigits_ne_zero hpos (by rw [h]; rfl)

theorem readNat?_natDigits (n : Nat) : readNat? (natDigits n) = some n := by
  have hall : (natDigits n).all Char.isDigit = true :=
    List.all_eq_true.2 fun _ => isDigit_of_mem_natDigits
  have hnil : (natDigits n).isEmpty = false := by
    simpa using natDigits_ne_nil n
  rw [readNat?, hall, hnil, foldDigits_natDigits]
  rfl

/-- A run with anything but digits in it is no natural number. -/
theorem readNat?_of_not_digit {cs : List Char} {c : Char} (hmem : c ∈ cs)
    (hc : c.isDigit = false) : readNat? cs = none := by
  have hall : cs.all Char.isDigit = false :=
    List.all_eq_false.2 ⟨c, hmem, by simp [hc]⟩
  rw [readNat?, hall, Bool.and_false]
  rfl

/-- Digits in front are neither of the two signs. -/
theorem readInt?_of_digit {c : Char} (cs : List Char) (hc : c.isDigit = true) :
    readInt? (c :: cs) = (readNat? (c :: cs)).map fun n => (n : Int) := by
  unfold readInt?
  split
  · next heq => cases heq; exact absurd hc (by decide)
  · next heq => cases heq; exact absurd hc (by decide)
  · rfl

theorem readInt?_natDigits (n : Nat) : readInt? (natDigits n) = some (n : Int) := by
  have hread := readNat?_natDigits n
  cases hdigits : natDigits n with
  | nil => exact absurd hdigits (natDigits_ne_nil n)
  | cons c cs =>
    have hc : c.isDigit = true := isDigit_of_mem_natDigits (hdigits ▸ List.mem_cons_self)
    rw [hdigits] at hread
    rw [readInt?_of_digit cs hc, hread]
    rfl

/-- An integer is read back. -/
theorem readInt?_intDigits (n : Int) : readInt? (intDigits n) = some n := by
  cases n with
  | ofNat n => exact readInt?_natDigits n
  | negSucc n =>
    have hread : readInt? ('-' :: natDigits (n + 1)) =
        (readNat? (natDigits (n + 1))).map fun n => -(n : Int) := rfl
    rw [intDigits, hread, readNat?_natDigits]
    rfl

theorem readInt64?_intDigits (n : Int) : readInt64? (intDigits n) = toInt64? n := by
  rw [readInt64?, readInt?_intDigits]
  rfl

/-- A number with a point or an exponent is no integer. -/
theorem readInt64?_of_not_digit {cs : List Char} {c : Char} (hmem : c ∈ cs.tail)
    (hc : c.isDigit = false) : readInt64? cs = none := by
  have hnat := readNat?_of_not_digit hmem hc
  have hall := readNat?_of_not_digit (List.mem_of_mem_tail hmem) hc
  rw [readInt64?]
  unfold readInt?
  split
  · rw [List.tail_cons] at hnat
    rw [hnat]
    rfl
  · rw [List.tail_cons] at hnat
    rw [hnat]
    rfl
  · rw [hall]
    rfl

/-! ## Fixed widths -/

theorem natDigits_length_le {n width : Nat} (hwidth : 0 < width) (h : n < tenTo width) :
    (natDigits n).length ≤ width :=
  (Nat.length_toDigits_le_iff (by decide) hwidth).2 h

theorem padded_length {n width : Nat} (hwidth : 0 < width) (h : n < tenTo width) :
    (padded width n).length = width := by
  have := natDigits_length_le hwidth h
  simp only [padded, List.length_append, List.length_replicate]
  omega

theorem isDigit_of_mem_padded {n width : Nat} {c : Char} (h : c ∈ padded width n) :
    c.isDigit = true := by
  rcases List.mem_append.1 h with h | h
  · exact isDigit_of_mem_zeros h
  · exact isDigit_of_mem_natDigits h

theorem foldDigits_padded (width n : Nat) : foldDigits 0 (padded width n) = n := by
  rw [padded, foldDigits_append, foldDigits_zeros, Nat.zero_mul, foldDigits_natDigits]

end EntityQuery.Text
