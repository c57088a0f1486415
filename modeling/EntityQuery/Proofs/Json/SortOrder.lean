import EntityQuery.Proofs.Number.Size
import EntityQuery.Store.Compare

/-!
# The order of values for sorting

`Json.sortOrder` is no order on all values: arrays and objects are equal to each other, large
integers compare exactly with one another and rounded with floats, and float zeros are equal
where their texts are not.  `Json.IsSortable` says of a column of values that it has none of
this, and `Json.sortKey` is a key that the values of such a column are sorted by.

* Numbers.  `JsonNumber.order?_eq_units`: numbers that are all signed 64-bit integers, or all
  exact as binary64 numbers, are in the order of their sizes.
* Values.  `Json.same_eq`: without floats, only equal values are the same.
* Columns.  `Json.IsSortable.sortOrder_eq`: the order of a column is that of its sort keys.
-/

namespace EntityQuery

/-! ## Numbers -/

namespace JsonNumber

/-- A number in units of 2⁻¹⁰⁷⁴. -/
def units : JsonNumber → Int
  | .integer n => n.val * twoTo 1074
  | .float x => x.units

/-- The number is a float, or an integer of magnitude at most 2⁵³. -/
def IsExact : JsonNumber → Prop
  | .integer n => n.val.natAbs ≤ 9007199254740992
  | .float _ => True

theorem orderInt_units (m n : JsonInt) :
    TotalOrder.orderInt (integer m).units (integer n).units =
      TotalOrder.orderInt m.val n.val :=
  TotalOrder.orderInt_mul (by have := twoTo_pos 1074; omega) m.val n.val

theorem int64?_eq_some {n : JsonNumber} {i : Int64} (h : n.int64? = some i) :
    ∃ m, n = .integer m ∧ i.toInt = m.val := by
  cases n with
  | float x => cases h
  | integer m =>
    rw [int64?, Option.ite_none_right_eq_some, Option.some.injEq] at h
    obtain ⟨hupper, rfl⟩ := h
    have hlower := m.lower
    exact ⟨m, rfl, Int64.toInt_ofInt_of_le (by omega) (by omega)⟩

theorem binary64?_of_isExact {n : JsonNumber} (h : n.IsExact) :
    ∃ x, n.binary64? = some x ∧ x.units = n.units := by
  cases n with
  | integer n => exact Binary64.ofInt?_units h
  | float x => exact ⟨x, rfl, rfl⟩

/-- Numbers that are both signed 64-bit integers, or both exact as binary64 numbers, are in the
order of their sizes. -/
theorem order?_eq_units {m n : JsonNumber}
    (h : m.int64?.isSome = true ∧ n.int64?.isSome = true ∨ m.IsExact ∧ n.IsExact) :
    m.order? n = some (TotalOrder.orderInt m.units n.units) := by
  rw [order?]
  split
  · next i j hi hj =>
    obtain ⟨m, rfl, hm⟩ := int64?_eq_some hi
    obtain ⟨n, rfl, hn⟩ := int64?_eq_some hj
    rw [orderInt_units, ← hm, ← hn]
    rfl
  · next hints =>
    rcases h with ⟨hm, hn⟩ | ⟨hm, hn⟩
    · obtain ⟨i, hi⟩ := Option.isSome_iff_exists.1 hm
      obtain ⟨j, hj⟩ := Option.isSome_iff_exists.1 hn
      exact absurd hj (hints i j hi)
    · obtain ⟨x, hx, hxunits⟩ := binary64?_of_isExact hm
      obtain ⟨y, hy, hyunits⟩ := binary64?_of_isExact hn
      rw [hx, hy, ← hxunits, ← hyunits]
      simp only [Binary64.order_eq_units]

end JsonNumber

namespace Json

/-! ## Values -/

mutual

/-- Whether a value is a float or has one inside. -/
def hasFloat : Json → Bool
  | .number (.float _) => true
  | .array items => itemsHaveFloat items
  | .object members => membersHaveFloat members
  | _ => false

/-- Whether one of the items has a float. -/
def itemsHaveFloat : List Json → Bool
  | [] => false
  | item :: items => hasFloat item || itemsHaveFloat items

/-- Whether one of the members has a float. -/
def membersHaveFloat : List (String × Json) → Bool
  | [] => false
  | (_, value) :: members => hasFloat value || membersHaveFloat members

end

mutual

/-- Without floats, values that are the same are equal. -/
theorem same_eq : ∀ {x y : Json}, x.hasFloat = false → same x y = true → x = y
  | .null, y, _, h => by cases y <;> simp_all [same]
  | .bool _, y, _, h => by cases y <;> simp_all [same]
  | .number (.float _), _, hfloat, _ => by simp [hasFloat] at hfloat
  | .number (.integer m), y, _, h => by
    cases y with
    | number n =>
      cases n with
      | integer n =>
        obtain ⟨m, _, _⟩ := m
        obtain ⟨n, _, _⟩ := n
        simpa [same, JsonNumber.same] using h
      | float x => simp [same, JsonNumber.same] at h
    | _ => simp [same] at h
  | .string _, y, _, h => by cases y <;> simp_all [same]
  | .array xs, y, hfloat, h => by
    cases y with
    | array ys =>
      rw [hasFloat] at hfloat
      rw [same] at h
      rw [sameItems_eq hfloat h]
    | _ => simp [same] at h
  | .object xs, y, hfloat, h => by
    cases y with
    | object ys =>
      rw [hasFloat] at hfloat
      rw [same] at h
      rw [sameMembers_eq hfloat h]
    | _ => simp [same] at h

theorem sameItems_eq : ∀ {xs ys : List Json}, itemsHaveFloat xs = false →
    sameItems xs ys = true → xs = ys
  | [], ys, _, h => by cases ys <;> simp_all [sameItems]
  | x :: xs, ys, hfloat, h => by
    cases ys with
    | nil => simp [sameItems] at h
    | cons y ys =>
      rw [itemsHaveFloat, Bool.or_eq_false_iff] at hfloat
      rw [sameItems, Bool.and_eq_true] at h
      rw [same_eq hfloat.1 h.1, sameItems_eq hfloat.2 h.2]

theorem sameMembers_eq : ∀ {xs ys : List (String × Json)}, membersHaveFloat xs = false →
    sameMembers xs ys = true → xs = ys
  | [], ys, _, h => by cases ys <;> simp_all [sameMembers]
  | (k, x) :: xs, ys, hfloat, h => by
    cases ys with
    | nil => simp [sameMembers] at h
    | cons member ys =>
      obtain ⟨l, y⟩ := member
      rw [membersHaveFloat, Bool.or_eq_false_iff] at hfloat
      rw [sameMembers, Bool.and_eq_true, Bool.and_eq_true, beq_iff_eq] at h
      rw [h.1.1, same_eq hfloat.1 h.1.2, sameMembers_eq hfloat.2 h.2]

end

/-! ## Columns -/

/-- Values that can be sorted together. -/
structure IsSortable (column : Json → Prop) : Prop where
  /-- There are no arrays, or no objects. -/
  unmixed : ∀ {items members}, column (.array items) → ¬column (.object members)
  /-- No array has a float inside. -/
  array : ∀ {items}, column (.array items) → hasFloat (.array items) = false
  /-- No object has a float inside. -/
  object : ∀ {members}, column (.object members) → hasFloat (.object members) = false
  /-- The numbers are all signed 64-bit integers, or all exact as binary64 numbers. -/
  number : (∀ {n}, column (.number n) → n.int64?.isSome = true) ∨
    ∀ {n}, column (.number n) → n.IsExact

/-- The number that values of one type are sorted by. -/
def sortSize : Option Json → Int
  | some (.bool b) => b.toNat
  | some (.number n) => n.units
  | _ => 0

/-- The text that values of one type are sorted by. -/
def sortText : Option Json → String
  | some (.string s) => s
  | some (.array items) => (Json.array items).text
  | some (.object members) => (Json.object members).text
  | _ => ""

/-- The key that a value is sorted by: its type first. -/
def sortKey (v : Option Json) : Nat × Int × String := (sortRank v, sortSize v, sortText v)

theorem orderBool_eq (a b : Bool) :
    orderBool a b = TotalOrder.orderInt (a.toNat : Int) (b.toNat : Int) := by
  cases a <;> cases b <;> decide

/-- Values of different types do not compare. -/
theorem order?_eq_none {x y : Json} (h : sortRank (some x) ≠ sortRank (some y)) :
    order? x y = none := by
  cases x <;> cases y <;> first | rfl | exact absurd rfl h

/-- Values of different types are in the order of their types. -/
theorem sortOrder_of_rank_ne {a b : Option Json} (h : sortRank a ≠ sortRank b) :
    sortOrder a b = TotalOrder.order (sortRank a) (sortRank b) := by
  cases a with
  | none => rfl
  | some x =>
    cases b with
    | none => rfl
    | some y => rw [sortOrder, order?_eq_none h, Option.getD_none]

theorem order_sortKey (a b : Option Json) :
    TotalOrder.order (sortKey a) (sortKey b) =
      (TotalOrder.order (sortRank a) (sortRank b)).then
        ((TotalOrder.orderInt (sortSize a) (sortSize b)).then
          (TotalOrder.order (sortText a) (sortText b))) := rfl

/-- Values with the same text, or that are the same, are equal by their texts. -/
theorem order_text {x y : Json} (h : x.hasFloat = false) :
    (if same x y then .eq else TotalOrder.order x.text y.text) =
      TotalOrder.order x.text y.text := by
  split
  · next hsame => rw [same_eq h hsame, TotalOrder.order_self]
  · rfl

/-- Numbers of a column compare by their sizes. -/
theorem IsSortable.order?_number {column : Json → Prop} (h : IsSortable column) {m n : JsonNumber}
    (hm : column (.number m)) (hn : column (.number n)) :
    m.order? n = some (TotalOrder.orderInt m.units n.units) := by
  apply JsonNumber.order?_eq_units
  rcases h.number with hints | hexact
  · exact .inl ⟨hints hm, hints hn⟩
  · exact .inr ⟨hexact hm, hexact hn⟩

/-- Values of one type are in the order of what follows the type in their keys. -/
theorem IsSortable.order?_of_rank_eq {column : Json → Prop} (h : IsSortable column) {x y : Json}
    (hx : column x) (hy : column y) (hrank : sortRank (some x) = sortRank (some y)) :
    order? x y = some ((TotalOrder.orderInt (sortSize (some x)) (sortSize (some y))).then
      (TotalOrder.order (sortText (some x)) (sortText (some y)))) := by
  cases x with
  | null =>
    cases y with
    | null => rfl
    | _ => simp [sortRank] at hrank
  | bool a =>
    cases y with
    | bool b => simp [order?, sortSize, sortText, orderBool_eq]
    | _ => simp [sortRank] at hrank
  | number m =>
    cases y with
    | number n => simp [order?, sortSize, sortText, h.order?_number hx hy]
    | _ => simp [sortRank] at hrank
  | string s =>
    cases y with
    | string t => simp [order?, sortSize, sortText, TotalOrder.orderInt]
    | _ => simp [sortRank] at hrank
  | array xs =>
    cases y with
    | array ys =>
      simp [order?, sortSize, sortText, TotalOrder.orderInt, order_text (h.array hx)]
    | object ys => exact absurd hy (h.unmixed hx)
    | _ => simp [sortRank] at hrank
  | object xs =>
    cases y with
    | object ys =>
      simp [order?, sortSize, sortText, TotalOrder.orderInt, order_text (h.object hx)]
    | array ys => exact absurd hx (h.unmixed hy)
    | _ => simp [sortRank] at hrank

/-- The values of a column that can be sorted are in the order of their sort keys. -/
theorem IsSortable.sortOrder_eq {column : Json → Prop} (h : IsSortable column)
    {a b : Option Json} (ha : ∀ x ∈ a, column x) (hb : ∀ y ∈ b, column y) :
    sortOrder a b = TotalOrder.order (sortKey a) (sortKey b) := by
  rw [order_sortKey]
  by_cases hrank : sortRank a = sortRank b
  · rw [hrank, TotalOrder.order_self, Ordering.eq_then]
    cases a with
    | none =>
      cases b with
      | none => rfl
      | some y => cases y <;> simp [sortRank] at hrank
    | some x =>
      cases b with
      | none => cases x <;> simp [sortRank] at hrank
      | some y =>
        rw [sortOrder, h.order?_of_rank_eq (ha x rfl) (hb y rfl) hrank, Option.getD_some]
  · rw [sortOrder_of_rank_ne hrank]
    have hne : TotalOrder.order (sortRank a) (sortRank b) ≠ .eq :=
      fun heq => hrank (TotalOrder.order_eq_iff.1 heq)
    cases horder : TotalOrder.order (sortRank a) (sortRank b) with
    | eq => exact absurd horder hne
    | lt | gt => rfl

end Json

end EntityQuery
