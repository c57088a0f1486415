import EntityQuery.Gql.Lexer
import EntityQuery.Json.Writer
import EntityQuery.Proofs.Number.ReadBack

/-!
# Literals read back

What query text gives back of a JSON value.  Numbers come back as they are, but for
the integers beyond the signed ones of 64 bits, which come back as floats; and
objects come back as their text.  `Json.reread` is the value that comes back.
`Json.flat` only puts texts for objects: the two agree on values without such
integers (`Json.reread_eq_flat`).
-/

namespace EntityQuery

open EntityQuery.Text

/-! ## Numbers -/

namespace JsonNumber

/-- The number that the text of a number is read as. -/
def reread : JsonNumber → JsonNumber
  | .integer n =>
    if n.val ≤ 9223372036854775807 then .integer n
    else (Binary64.ofInt? n.val).elim (.integer n) .float
  | .float x => .float x

/-- Whether a number is a float or a signed integer of 64 bits. -/
def fitsInt64 : JsonNumber → Bool
  | .integer n => n.val ≤ 9223372036854775807
  | .float _ => true

theorem reread_of_fitsInt64 {n : JsonNumber} (h : n.fitsInt64 = true) : n.reread = n := by
  cases n with
  | integer n => exact if_pos (of_decide_eq_true h)
  | float x => rfl

theorem ofInt64_eq {n : JsonInt} (h : n.val ≤ 9223372036854775807) :
    ofInt64 (Int64.ofInt n.val) = .integer n := by
  have hval : (Int64.ofInt n.val).toInt = n.val :=
    Int64.toInt_ofInt_of_le (by have := n.lower; omega) (by omega)
  obtain ⟨val, lower, upper⟩ := n
  simp only [ofInt64, integer.injEq, JsonInt.mk.injEq]
  exact hval

/-- Every JSON integer has a nearest binary64 number. -/
theorem ofInt?_isSome {n : Nat} (h : n ≤ 18446744073709551615) :
    ∃ x, Binary64.ofInt? n = some x := by
  have hlt : n * twoTo 1074 < twoTo (1137 + 1) * 1 := by
    rw [show 1137 + 1 = 64 + 1074 from rfl, twoTo_add, Nat.mul_one]
    refine Nat.mul_lt_mul_of_pos_right ?_ (twoTo_pos _)
    exact Nat.lt_of_le_of_lt h (by decide)
  have hfinite : Binary64.nearest n 1 < 0x7FF0000000000000 :=
    Nat.lt_of_le_of_lt (Binary64.nearest_le (by decide) hlt) (by decide)
  refine ⟨⟨decide ((n : Int) < 0), Binary64.nearest n 1, hfinite⟩, ?_⟩
  rw [Binary64.ofInt?, Int.natAbs_natCast, Binary64.ofRatio?, Binary64.ofCode?, dif_pos hfinite]

/-- Digits alone are read as the binary64 number nearest to the integer. -/
theorem read?_natDigits (n : Nat) (hn : 0 < n) :
    Binary64.read? (natDigits n) = Binary64.ofInt? n := by
  have hdigits : ∀ c ∈ natDigits n, c.isDigit = true := fun _ => isDigit_of_mem_natDigits
  have hunsigned : Binary64.readUnsigned? false (natDigits n) = Binary64.ofInt? n := by
    have hempty : (natDigits n).isEmpty = false := by simpa using natDigits_ne_nil n
    have hguard : ¬(n = 0 ∨ (0 : Int) + (n.log2 + 1) < -330) := by omega
    have hone : tenTo (0 : Int).toNat = 1 := rfl
    simp only [Binary64.readUnsigned?, splitDigits_self hdigits, Binary64.splitFraction, hempty,
      Bool.false_and, Bool.false_eq_true, if_false, Binary64.readExponent?, Option.bind_some,
      List.append_nil, foldDigits_natDigits, List.length_nil, Int.natCast_zero, Int.sub_zero]
    rw [Binary64.ofDecimal?, if_neg hguard, if_neg (by decide), if_pos (by decide), hone,
      Nat.mul_one, Binary64.ofInt?, Int.natAbs_natCast]
    have hsign : decide ((n : Int) < 0) = false := decide_eq_false (by omega)
    rw [hsign]
  cases hcs : natDigits n with
  | nil => exact absurd hcs (natDigits_ne_nil n)
  | cons c cs =>
    rw [hcs] at hdigits hunsigned
    rw [Binary64.read?_of_digit cs (hdigits c List.mem_cons_self), hunsigned]

/-- What the text of a number is read as. -/
theorem readNumber?_chars (n : JsonNumber) : Gql.readNumber? n.chars = some n.reread := by
  cases n with
  | float x =>
    rw [Gql.readNumber?, chars, Binary64.readInt64?_chars, Binary64.read?_chars]
    rfl
  | integer n =>
    have hlower := n.lower
    rw [Gql.readNumber?, chars, readInt64?_intDigits, toInt64?, reread]
    by_cases hfits : n.val ≤ 9223372036854775807
    · rw [if_pos ⟨hlower, hfits⟩, if_pos hfits]
      exact congrArg some (ofInt64_eq hfits)
    · rw [if_neg (by omega), if_neg hfits]
      obtain ⟨size, hsize⟩ : ∃ size : Nat, n.val = size := ⟨n.val.toNat, by omega⟩
      have hupper := n.upper
      obtain ⟨x, hx⟩ := ofInt?_isSome (n := size) (by omega)
      rw [hsize, show intDigits (size : Int) = natDigits size from rfl,
        read?_natDigits size (by omega), hx]
      rfl

/-- A count is read again if it is a signed integer of 64 bits, and else becomes a float. -/
theorem uint64?_reread (n : UInt64) :
    (ofUInt64 n).reread.uint64? = if n.toNat ≤ 9223372036854775807 then some n else none := by
  have hval : ∀ h₁ h₂, (ofUInt64 n) = .integer ⟨n.toNat, h₁, h₂⟩ := fun _ _ => rfl
  have hlt := n.toNat_lt
  rw [hval (by omega) (by omega), reread]
  by_cases hn : n.toNat ≤ 9223372036854775807
  · rw [if_pos hn, if_pos (by simp only; omega), uint64?, if_pos (by simp only; omega)]
    simp
  · obtain ⟨x, hx⟩ := ofInt?_isSome (n := n.toNat) (by omega)
    rw [if_neg hn, if_neg (by simp only; omega), hx]
    rfl

end JsonNumber

/-! ## Values -/

namespace Json

mutual

/-- The value with the text of its JSON in the place of every object. -/
def flat : Json → Json
  | .null => .null
  | .bool b => .bool b
  | .number n => .number n
  | .string s => .string s
  | .array items => .array (flatItems items)
  | .object members => .string (Json.object members).text

/-- The items of an array, each made flat. -/
def flatItems : List Json → List Json
  | [] => []
  | item :: items => flat item :: flatItems items

end

mutual

/-- The value that the query text of a literal is read as. -/
def reread : Json → Json
  | .null => .null
  | .bool b => .bool b
  | .number n => .number n.reread
  | .string s => .string s
  | .array items => .array (rereadItems items)
  | .object members => .string (Json.object members).text

/-- The items of an array, each read again. -/
def rereadItems : List Json → List Json
  | [] => []
  | item :: items => reread item :: rereadItems items

end

mutual

/-- Whether the integers of a value, those inside objects aside, are signed integers of 64
bits. -/
def fitsInt64 : Json → Bool
  | .number n => n.fitsInt64
  | .array items => itemsFitInt64 items
  | _ => true

/-- Whether the integers of all items are signed integers of 64 bits. -/
def itemsFitInt64 : List Json → Bool
  | [] => true
  | item :: items => fitsInt64 item && itemsFitInt64 items

end

mutual

/-- A value without integers beyond 64 bits is read again as it is, objects aside. -/
theorem reread_eq_flat : ∀ {v : Json}, v.fitsInt64 = true → v.reread = v.flat
  | .null, _ => rfl
  | .bool _, _ => rfl
  | .number n, h => by
    rw [reread, flat, JsonNumber.reread_of_fitsInt64 (by simpa [fitsInt64] using h)]
  | .string _, _ => rfl
  | .array items, h => by
    rw [reread, flat, rereadItems_eq_flatItems (by simpa [fitsInt64] using h)]
  | .object _, _ => rfl

theorem rereadItems_eq_flatItems :
    ∀ {items : List Json}, itemsFitInt64 items = true → rereadItems items = flatItems items
  | [], _ => rfl
  | item :: items, h => by
    rw [itemsFitInt64, Bool.and_eq_true] at h
    rw [rereadItems, flatItems, reread_eq_flat h.1, rereadItems_eq_flatItems h.2]

end

end Json

end EntityQuery
