import EntityQuery.Proofs.Query.Compilation
import EntityQuery.Proofs.Text.Decimal

/-!
# Integers in text

Which texts are read as an integer of 64 bits, and as which.

* Spelling.  `SpellsInt` is how an integer is spelled, in digits behind one sign or none, and
  `readInt64?_eq_some_iff` that exactly these texts are read, if the integer fits 64 bits.
* White space.  `HoldsInt64` is that such an integer stands in a text with white space around it;
  `readInt64?_trimChars_iff` that it is read once the ends are trimmed.  `HoldsInt64.mem` are the
  characters that such a text may have.
-/

namespace EntityQuery.Text

/-! ## Spelling -/

/-- One ASCII digit or more, of which the decimal value is `n`. -/
def SpellsNat (cs : List Char) (n : Nat) : Prop :=
  cs ≠ [] ∧ (∀ c ∈ cs, c.isDigit = true) ∧ Nat.ofDigitChars 10 cs 0 = n

/-- The digits of a natural number behind one sign or none. -/
inductive SpellsInt : List Char → Int → Prop where
  | plain {digits n} (h : SpellsNat digits n) : SpellsInt digits n
  | plus {digits n} (h : SpellsNat digits n) : SpellsInt ('+' :: digits) n
  | minus {digits n} (h : SpellsNat digits n) : SpellsInt ('-' :: digits) (-n)

theorem readNat?_eq_some_iff {cs : List Char} {n : Nat} :
    readNat? cs = some n ↔ SpellsNat cs n := by
  have hvalue : foldDigits 0 cs = Nat.ofDigitChars 10 cs 0 := rfl
  rw [readNat?, hvalue, SpellsNat]
  cases cs <;> simp

/-- Behind a sign or none, digits are read as what the sign makes of their value. -/
theorem exists_spellsNat {digits : List Char} {signed : Int → Int} {n : Int}
    (h : (readNat? digits >>= fun m => pure (m : Int)).map signed = some n) :
    ∃ m : Nat, SpellsNat digits m ∧ signed m = n := by
  cases hread : readNat? digits with
  | none =>
    rw [hread] at h
    cases h
  | some m =>
    rw [hread] at h
    exact ⟨m, readNat?_eq_some_iff.1 hread, Option.some.inj h⟩

theorem readInt?_eq_some_iff {cs : List Char} {n : Int} :
    readInt? cs = some n ↔ SpellsInt cs n := by
  constructor
  · intro h
    unfold readInt? at h
    split at h
    all_goals obtain ⟨m, hdigits, rfl⟩ := exists_spellsNat h
    · exact .minus hdigits
    · exact .plus hdigits
    · exact .plain hdigits
  · intro h
    cases h with
    | plain h =>
      cases cs with
      | nil => exact absurd rfl h.1
      | cons c cs =>
        rw [readInt?_of_digit cs (h.2.1 c List.mem_cons_self), readNat?_eq_some_iff.2 h]
        rfl
    | plus h => rw [readInt?, readNat?_eq_some_iff.2 h]; rfl
    | minus h => rw [readInt?, readNat?_eq_some_iff.2 h]; rfl

theorem toInt64?_eq_some_iff {n : Int} {i : Int64} : toInt64? n = some i ↔ i.toInt = n := by
  refine ⟨toInt_of_toInt64?, ?_⟩
  rintro rfl
  have hlower := i.le_toInt
  have hupper := i.toInt_lt
  rw [toInt64?, if_pos (by omega), Int64.ofInt_toInt]

theorem readInt64?_eq_some_iff {cs : List Char} {n : Int64} :
    readInt64? cs = some n ↔ SpellsInt cs n.toInt := by
  rw [readInt64?, Option.bind_eq_some_iff]
  simp only [toInt64?_eq_some_iff, readInt?_eq_some_iff, exists_eq_right']

/-! ## White space -/

/-- The text is an integer that fits 64 bits, with white space around it or none. -/
def HoldsInt64 (s : String) (n : Int64) : Prop :=
  ∃ before cs after, s.toList = before ++ cs ++ after ∧
    (∀ c ∈ before ++ after, isBlank c = true) ∧ SpellsInt cs n.toInt

/-- The characters that integers are spelled with. -/
def isIntegerChar (c : Char) : Bool := c.isDigit || c == '+' || c == '-'

theorem SpellsInt.isIntegerChar {cs : List Char} {n : Int} (h : SpellsInt cs n) :
    ∀ c ∈ cs, isIntegerChar c = true := by
  have hdigits : ∀ {digits m}, SpellsNat digits m → ∀ c ∈ digits, Text.isIntegerChar c = true :=
    fun h c hc => by rw [Text.isIntegerChar, h.2.1 c hc]; rfl
  cases h with
  | plain h => exact hdigits h
  | plus h => exact List.forall_mem_cons.2 ⟨rfl, hdigits h⟩
  | minus h => exact List.forall_mem_cons.2 ⟨rfl, hdigits h⟩

theorem SpellsInt.isBlank_eq_false {cs : List Char} {n : Int} (h : SpellsInt cs n) :
    ∀ c ∈ cs, isBlank c = false := fun c hc =>
  isBlank_eq_false_of (p := Text.isIntegerChar) (by decide) (h.isIntegerChar c hc)

theorem SpellsInt.ne_nil {cs : List Char} {n : Int} (h : SpellsInt cs n) : cs ≠ [] := by
  cases h with
  | plain h => exact h.1
  | plus => exact List.cons_ne_nil _ _
  | minus => exact List.cons_ne_nil _ _

theorem dropWhile_isBlank {cs : List Char} (h : ∀ c ∈ cs, isBlank c = false) :
    cs.dropWhile isBlank = cs := by
  cases cs with
  | nil => rfl
  | cons c cs => rw [List.dropWhile_cons_of_neg (by simp [h c List.mem_cons_self])]

/-- Trimming leaves what stands between the white space if that has none. -/
theorem trimChars_between {before cs after : List Char} (hne : cs ≠ [])
    (hcs : ∀ c ∈ cs, isBlank c = false) (hblank : ∀ c ∈ before ++ after, isBlank c = true) :
    trimChars (before ++ cs ++ after) = cs :=
  trimChars_surrounded hne (dropWhile_isBlank hcs)
    (dropWhile_isBlank fun c hc => hcs c (List.mem_reverse.1 hc))
    (fun c hc => hblank c (List.mem_append_left _ hc))
    fun c hc => hblank c (List.mem_append_right _ hc)

/-- The texts that hold an integer of 64 bits are those of which one is read without the white space
at the ends. -/
theorem readInt64?_trimChars_iff {s : String} {n : Int64} :
    readInt64? (trimChars s.toList) = some n ↔ HoldsInt64 s n := by
  rw [readInt64?_eq_some_iff]
  constructor
  · intro h
    obtain ⟨before, after, hs, hbefore, hafter⟩ := trimChars_parts s.toList
    exact ⟨before, _, after, hs, fun c hc => (List.mem_append.1 hc).elim (hbefore c) (hafter c), h⟩
  · rintro ⟨before, cs, after, hs, hblank, h⟩
    rwa [hs, trimChars_between h.ne_nil h.isBlank_eq_false hblank]

/-- A text that holds an integer has no characters but white space, digits and signs. -/
theorem HoldsInt64.mem {s : String} {n : Int64} (h : HoldsInt64 s n) {c : Char}
    (hc : c ∈ s.toList) : isBlank c = true ∨ isIntegerChar c = true := by
  obtain ⟨before, cs, after, hs, hblank, hspells⟩ := h
  rw [hs, List.mem_append, List.mem_append] at hc
  rcases hc with (hc | hc) | hc
  · exact .inl (hblank c (List.mem_append_left _ hc))
  · exact .inr (hspells.isIntegerChar c hc)
  · exact .inl (hblank c (List.mem_append_right _ hc))

end EntityQuery.Text
