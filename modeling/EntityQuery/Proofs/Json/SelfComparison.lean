import EntityQuery.Proofs.Json.Reread
import EntityQuery.Store.Compare

/-!
# Values compared with what is read back of them

A filter compares the value of a property with what the query text gives back of a value.  For
one and the same value these are equal unless there is an object in it: an object comes back as a
text, and a text is no object.

* Numbers.  `JsonNumber.order?_reread`: a number is equal to what comes back, also where that is a
  float.
* Objects.  `Json.hasObject` says whether there is an object anywhere in a value, and
  `Json.flat_eq_self` that without objects nothing becomes a text.
* Texts.  `Json.quotes_le_reread`: every object adds quotes to the text of what comes back, so that
  this is another text.
* The comparison.  `Json.order?_reread_self` and `Json.order?_reread_ne`.
-/

namespace EntityQuery

open EntityQuery.Text

/-! ## Numbers -/

namespace Binary64

theorem order_self (x : Binary64) : x.order x = .eq := TotalOrder.orderInt_eq_iff.2 rfl

end Binary64

namespace JsonNumber

/-- A number compares with a float as the binary64 number nearest to it. -/
theorem order?_float {n : JsonNumber} {x : Binary64} (h : n.binary64? = some x) (y : Binary64) :
    n.order? (.float y) = some (x.order y) := by
  rw [order?]
  split
  · next hint => cases hint
  · simp only [h]
    rfl

/-- A number is equal to what its text is read as. -/
theorem order?_reread (n : JsonNumber) : n.order? n.reread = some .eq := by
  cases n with
  | float x => rw [reread, order?_float rfl, x.order_self]
  | integer n =>
    by_cases hfits : n.val ≤ 9223372036854775807
    · have hint : int64? (.integer n) = some (Int64.ofInt n.val) := by rw [int64?, if_pos hfits]
      rw [reread, if_pos hfits, order?, hint]
      simp only [TotalOrder.order_self]
    · -- the text is read as the binary64 number that the integer is compared as
      obtain ⟨size, hsize⟩ : ∃ size : Nat, n.val = size := ⟨n.val.toNat, by omega⟩
      have hupper := n.upper
      obtain ⟨x, hx⟩ := ofInt?_isSome (n := size) (by omega)
      rw [← hsize] at hx
      have hexact : (integer n).binary64? = some x := hx
      rw [reread, if_neg hfits, hx, Option.elim_some, order?_float hexact, x.order_self]

end JsonNumber

namespace Json

/-! ## Objects -/

mutual

/-- Whether a value is an object or has one inside. -/
def hasObject : Json → Bool
  | .array items => itemsHaveObject items
  | .object _ => true
  | _ => false

/-- Whether one of the items has an object. -/
def itemsHaveObject : List Json → Bool
  | [] => false
  | item :: items => hasObject item || itemsHaveObject items

end

mutual

/-- Without objects nothing becomes a text. -/
theorem flat_eq_self : ∀ {v : Json}, v.hasObject = false → v.flat = v
  | .null, _ => rfl
  | .bool _, _ => rfl
  | .number _, _ => rfl
  | .string _, _ => rfl
  | .array items, h => by rw [flat, flatItems_eq_self (by simpa [hasObject] using h)]
  | .object _, h => by simp [hasObject] at h

theorem flatItems_eq_self :
    ∀ {items : List Json}, itemsHaveObject items = false → flatItems items = items
  | [], _ => rfl
  | item :: items, h => by
    rw [itemsHaveObject, Bool.or_eq_false_iff] at h
    rw [flatItems, flat_eq_self h.1, flatItems_eq_self h.2]

end

mutual

/-- A value with an object is not the same as what comes back of it. -/
theorem same_reread : ∀ {v : Json}, v.hasObject = true → same v v.reread = false
  | .null, h => by simp [hasObject] at h
  | .bool _, h => by simp [hasObject] at h
  | .number _, h => by simp [hasObject] at h
  | .string _, h => by simp [hasObject] at h
  | .array items, h => by
    rw [reread, same, sameItems_reread (by simpa [hasObject] using h)]
  | .object _, _ => rfl

theorem sameItems_reread :
    ∀ {items : List Json}, itemsHaveObject items = true →
      sameItems items (rereadItems items) = false
  | [], h => by simp [itemsHaveObject] at h
  | item :: items, h => by
    rw [itemsHaveObject, Bool.or_eq_true] at h
    rw [rereadItems, sameItems, Bool.and_eq_false_iff]
    exact h.imp same_reread sameItems_reread

end

/-! ## Texts -/

/-- The number of quotes among characters. -/
def quotes (cs : List Char) : Nat := cs.count '"'

theorem quotes_append (as bs : List Char) : quotes (as ++ bs) = quotes as + quotes bs :=
  List.count_append

theorem quotes_cons (c : Char) (cs : List Char) : quotes (c :: cs) = quotes [c] + quotes cs :=
  quotes_append [c] cs

theorem quotes_cons_of_ne {c : Char} (h : c ≠ '"') (cs : List Char) :
    quotes (c :: cs) = quotes cs :=
  List.count_cons_of_ne h

theorem quotes_natDigits (n : Nat) : quotes (natDigits n) = 0 := by
  rw [quotes, List.count_eq_zero]
  intro hmem
  exact absurd (isDigit_of_mem_natDigits hmem) (by decide)

theorem quotes_intDigits (n : Int) : quotes (intDigits n) = 0 := by
  cases n with
  | ofNat n => exact quotes_natDigits n
  | negSucc n =>
    rw [intDigits, quotes_cons_of_ne (by decide), quotes_natDigits]

/-- What is read back of a number has no fewer quotes: it is the number, or the number is an
integer. -/
theorem quotes_number_le (n : JsonNumber) : quotes n.chars ≤ quotes n.reread.chars := by
  cases n with
  | float x => exact Nat.le_refl _
  | integer n =>
    have hnone : quotes (JsonNumber.integer n).chars = 0 := quotes_intDigits n.val
    rw [hnone]
    exact Nat.zero_le _

/-- An escaped character keeps its quotes. -/
theorem quotes_escapeChar (c : Char) : quotes [c] ≤ quotes (escapeChar c) := by
  by_cases hquote : c = '"'
  · subst hquote
    decide
  · have hnone : quotes [c] = 0 := by
      rw [quotes, List.count_eq_zero, List.mem_singleton]
      exact fun h => hquote h.symm
    rw [hnone]
    exact Nat.zero_le _

theorem quotes_flatMap_escapeChar (cs : List Char) :
    quotes cs ≤ quotes (cs.flatMap escapeChar) := by
  induction cs with
  | nil => exact Nat.le_refl _
  | cons c cs ih =>
    rw [List.flatMap_cons, quotes_append, quotes_cons]
    exact Nat.add_le_add (quotes_escapeChar c) ih

/-- A string has its own quotes and two more. -/
theorem quotes_stringChars (s : String) : quotes s.toList + 2 ≤ quotes (stringChars s) := by
  have hinner := quotes_flatMap_escapeChar s.toList
  have hone : quotes ['"'] = 1 := rfl
  rw [stringChars, quotes_append, quotes_cons, hone]
  omega

theorem toNat_or_le (a b : Bool) : (a || b).toNat ≤ a.toNat + b.toNat := by
  cases a <;> cases b <;> decide

mutual

/-- The text of what comes back has no fewer quotes, and it has more if there is an object. -/
theorem quotes_le_reread : ∀ v : Json,
    quotes v.chars + v.hasObject.toNat ≤ quotes v.reread.chars
  | .null => Nat.le_refl _
  | .bool _ => Nat.le_refl _
  | .number n => quotes_number_le n
  | .string _ => Nat.le_refl _
  | .array [] => Nat.le_refl _
  | .array (item :: items) => by
    have hitem := quotes_le_reread item
    have hitems := quotes_le_rereadItems items
    have hany := toNat_or_le (hasObject item) (itemsHaveObject items)
    simp only [reread, rereadItems, chars, hasObject, itemsHaveObject, List.cons_append,
      quotes_append, quotes_cons_of_ne (show '[' ≠ '"' by decide)]
    omega
  | .object members => by
    have htext : (Json.object members).text.toList = (Json.object members).chars :=
      String.toList_ofList
    have hstring := quotes_stringChars (Json.object members).text
    rw [htext] at hstring
    simp only [reread, chars, hasObject, Bool.toNat_true]
    omega

theorem quotes_le_rereadItems : ∀ items : List Json,
    quotes (itemChars items) + (itemsHaveObject items).toNat ≤
      quotes (itemChars (rereadItems items))
  | [] => Nat.le_refl _
  | item :: items => by
    have hitem := quotes_le_reread item
    have hitems := quotes_le_rereadItems items
    have hany := toNat_or_le (hasObject item) (itemsHaveObject items)
    simp only [rereadItems, itemChars, itemsHaveObject, List.cons_append, quotes_append,
      quotes_cons_of_ne (show ',' ≠ '"' by decide)]
    omega

end

/-- A value with an object has another text than what comes back of it. -/
theorem text_reread_ne {v : Json} (h : v.hasObject = true) : v.text ≠ v.reread.text := by
  intro heq
  have hquotes := quotes_le_reread v
  have hchars : v.chars = v.reread.chars := by
    have hlists := congrArg String.toList heq
    rwa [text, text, String.toList_ofList, String.toList_ofList] at hlists
  rw [h, ← hchars, Bool.toNat_true] at hquotes
  omega

/-! ## The comparison -/

/-- Arrays are equal to themselves, whatever floats are inside. -/
theorem order?_array_self (items : List Json) :
    order? (.array items) (.array items) = some .eq := by
  rw [order?]
  split
  · rfl
  · rw [TotalOrder.order_self]

/-- A value without objects is equal to what comes back of it, if the integers inside arrays fit
64 bits with a sign. -/
theorem order?_reread_self {v : Json} (hobject : v.hasObject = false)
    (hfits : ∀ items, v = .array items → v.fitsInt64 = true) :
    order? v v.reread = some .eq := by
  cases v with
  | null => rfl
  | bool b => cases b <;> rfl
  | number n => exact n.order?_reread
  | string s =>
    show some (TotalOrder.order s s) = _
    rw [TotalOrder.order_self]
  | array items =>
    rw [reread_eq_flat (hfits items rfl), flat_eq_self hobject, order?_array_self]
  | object members => simp [hasObject] at hobject

/-- A value with an object is not equal to what comes back of it: an object does not compare with
a text, and arrays that differ compare by their texts. -/
theorem order?_reread_ne {v : Json} (h : v.hasObject = true) : order? v v.reread ≠ some .eq := by
  cases v with
  | null | bool | number | string => simp [hasObject] at h
  | object members => exact nofun
  | array items =>
    have hsame := same_reread h
    have htext := text_reread_ne h
    rw [reread] at hsame htext ⊢
    rw [order?, hsame, if_neg Bool.false_ne_true]
    intro heq
    exact htext (TotalOrder.order_eq_iff.1 (Option.some.inj heq))

end Json

end EntityQuery
