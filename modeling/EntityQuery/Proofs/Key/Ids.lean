import EntityQuery.Key.Id
import EntityQuery.Proofs.Number.ReadBack
import EntityQuery.Proofs.Text.Integers
import Mathlib.Tactic.TFAE

/-!
# The ids that values give

A filter value gives an id, and an id has a filter value.  An id that was taken out of a value comes
out of its own value again, and no other id does: what an integer can be read of is a number, and a
name is what no integer can be read of.

* Ids.  `KeyId.IsStable` is that of a number, and of a name that holds no integer;
  `KeyId.ofJson_toJson_eq_iff_isStable` that these ids come out of their own value.
* Values.  `KeyId.isStable_ofJson`: no name that a value gives holds an integer.  The JSON text of
  every value that is no text has a character that no integer has, or is too large.
* The result.  `KeyId.stable_tfae`.
-/

namespace EntityQuery

/-- The text of a float has a point or an exponent. -/
theorem Binary64.exists_mark (x : Binary64) : ∃ c ∈ x.chars, c = '.' ∨ c = 'e' := by
  obtain ⟨first, rest, hchars, -, hrest⟩ := Binary64.magnitudeChars_shape x.code
  have hmark : ∃ c ∈ rest, c = '.' ∨ c = 'e' := by
    cases hrest with
    | plain _ hpoint => exact ⟨'.', hpoint, .inl rfl⟩
    | scaled => exact ⟨'e', by simp, .inr rfl⟩
  obtain ⟨c, hc, hmark⟩ := hmark
  refine ⟨c, ?_, hmark⟩
  rw [Binary64.chars_eq, hchars]
  exact List.mem_append_right _ (List.mem_cons_of_mem _ hc)

namespace KeyId

open EntityQuery.Text

/-! ## Ids -/

/-- The ids that are taken for themselves again: numbers, and names that hold no integer of 64
bits. -/
def IsStable : KeyId → Prop
  | number _ => True
  | name s => ∀ n, ¬HoldsInt64 s n

theorem isStable_name_iff {s : String} :
    (name s).IsStable ↔ readInt64? (trimChars s.toList) = none := by
  rw [IsStable, Option.eq_none_iff_forall_ne_some]
  simp only [ne_eq, readInt64?_trimChars_iff]

theorem ofJson_toJson_eq_iff_isStable {id : KeyId} : ofJson id.toJson = id ↔ id.IsStable := by
  rw [ofJson_toJson_eq_iff]
  cases id with
  | number n => simp [IsStable]
  | name s => simp [isStable_name_iff]

/-! ## Values -/

/-- A name is stable if it has a character that is neither white space nor in an integer. -/
theorem isStable_name_of_mem {s : String} {c : Char} (hmem : c ∈ s.toList)
    (hblank : isBlank c = false) (hinteger : isIntegerChar c = false) : (name s).IsStable := by
  intro n h
  rcases h.mem hmem with hc | hc
  · exact Bool.eq_false_iff.1 hblank hc
  · exact Bool.eq_false_iff.1 hinteger hc

/-- A float has a point or an exponent, and a large integer is out of range. -/
theorem isStable_text_number {n : JsonNumber} (h : n.int64? = none) : (name n.text).IsStable := by
  cases n with
  | float x =>
    obtain ⟨c, hmem, hc⟩ := x.exists_mark
    have htext : c ∈ (JsonNumber.float x).text.toList := by
      rw [JsonNumber.text, String.toList_ofList]
      exact hmem
    rcases hc with rfl | rfl
    · exact isStable_name_of_mem htext (by decide) (by decide)
    · exact isStable_name_of_mem htext (by decide) (by decide)
  | integer n =>
    have hlarge : 9223372036854775807 < n.val := by
      rw [JsonNumber.int64?] at h
      split at h
      · cases h
      · omega
    have hspells := readInt?_eq_some_iff.1 (readInt?_intDigits n.val)
    have htrim : trimChars (intDigits n.val) = intDigits n.val := by
      have hblank : ∀ c ∈ ([] : List Char) ++ [], isBlank c = true := by simp
      have hbetween := trimChars_between hspells.ne_nil hspells.isBlank_eq_false hblank
      rwa [List.nil_append, List.append_nil] at hbetween
    rw [isStable_name_iff, JsonNumber.text, String.toList_ofList, JsonNumber.chars, htrim,
      readInt64?_intDigits, toInt64?, if_neg (by omega)]

/-- No name that a value gives holds an integer. -/
theorem isStable_ofJson (v : Json) : (ofJson v).IsStable := by
  have hfirst : ∀ {c cs}, v.text.toList = c :: cs → isBlank c = false → isIntegerChar c = false →
      (name v.text).IsStable := fun hv =>
    isStable_name_of_mem (hv ▸ List.mem_cons_self)
  cases v with
  | null => exact hfirst (c := 'n') rfl (by decide) (by decide)
  | bool b =>
    cases b
    · exact hfirst (c := 'f') rfl (by decide) (by decide)
    · exact hfirst (c := 't') rfl (by decide) (by decide)
  | number n =>
    rw [ofJson]
    split
    · trivial
    · next hnone => exact isStable_text_number hnone
  | string s =>
    rw [ofJson]
    split
    · trivial
    · next hnone => exact isStable_name_iff.2 hnone
  | array items =>
    cases items <;> exact hfirst (c := '[') String.toList_ofList (by decide) (by decide)
  | object members =>
    cases members <;> exact hfirst (c := '{') String.toList_ofList (by decide) (by decide)

/-! ## The result -/

/-- The ids that come out of their own value again are those that some value gives, and these are
the numbers and the names that hold no integer of 64 bits.  So an id that was taken out of a value
is not changed by a second time. -/
theorem stable_tfae (id : KeyId) :
    [ofJson id.toJson = id, ∃ v, id = ofJson v, id.IsStable].TFAE ∧
      ∀ v, ofJson (ofJson v).toJson = ofJson v := by
  constructor
  · tfae_have 1 → 2 := fun h => ⟨id.toJson, h.symm⟩
    tfae_have 2 → 3
    | ⟨v, hv⟩ => hv ▸ isStable_ofJson v
    tfae_have 3 → 1 := ofJson_toJson_eq_iff_isStable.2
    tfae_finish
  · exact fun v => ofJson_toJson_eq_iff_isStable.2 (isStable_ofJson v)

end KeyId

end EntityQuery
