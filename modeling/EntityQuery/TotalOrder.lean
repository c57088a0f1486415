/-!
# Total orders by three-way comparison

`TotalOrder κ` is a comparison on `κ` that names equal keys only equal, turns
round when its arguments do, and is transitive.  Ids, names and addresses are
compared this way, and `OrderedMap` keeps its entries in such an order.

The instances build the orders that the rest of the library needs:

* integers by size (`Nat`, `Int`), and characters by code point;
* lists element by element, a list before its extensions, and so texts by
  code point;
* an absent value before a present one (`Option`);
* pairs by the first component, then by the second.
-/

namespace EntityQuery

/-- A comparison that is a strict total order. -/
class TotalOrder (κ : Type) where
  /-- How the first key lies to the second. -/
  order : κ → κ → Ordering
  order_eq_iff : ∀ {a b : κ}, order a b = .eq ↔ a = b
  order_swap : ∀ a b : κ, order b a = (order a b).swap
  order_trans : ∀ {a b c : κ}, order a b = .lt → order b c = .lt → order a c = .lt

namespace TotalOrder

variable {κ ι : Type}

@[simp] theorem order_self [TotalOrder κ] (a : κ) : order a a = .eq :=
  order_eq_iff.2 rfl

theorem order_gt_iff [TotalOrder κ] {a b : κ} : order a b = .gt ↔ order b a = .lt := by
  rw [order_swap a b]
  cases order a b <;> decide

/-- The order that an injective view into an ordered type brings back. -/
@[reducible] def comap [TotalOrder κ] (view : ι → κ)
    (injective : ∀ {a b : ι}, view a = view b → a = b) : TotalOrder ι where
  order a b := order (view a) (view b)
  order_eq_iff := ⟨fun h => injective (order_eq_iff.1 h), fun h => by rw [h, order_self]⟩
  order_swap a b := order_swap (view a) (view b)
  order_trans := order_trans

/-! ## Numbers and characters -/

/-- Integers by size. -/
def orderInt (a b : Int) : Ordering :=
  if a < b then .lt else if a = b then .eq else .gt

theorem orderInt_lt_iff {a b : Int} : orderInt a b = .lt ↔ a < b := by
  unfold orderInt
  split
  · simp_all
  · split <;> simp_all

theorem orderInt_eq_iff {a b : Int} : orderInt a b = .eq ↔ a = b := by
  unfold orderInt
  split
  · simp; omega
  · split <;> simp_all

theorem orderInt_swap (a b : Int) : orderInt b a = (orderInt a b).swap := by
  unfold orderInt
  repeat' split
  all_goals first | rfl | omega

/-- Integers compare as others do that lie in the same order. -/
theorem orderInt_congr {a b c d : Int} (hlt : a < b ↔ c < d) (hgt : b < a ↔ d < c) :
    orderInt a b = orderInt c d := by
  rcases Int.lt_trichotomy a b with h | h | h
  · rw [orderInt_lt_iff.2 h, orderInt_lt_iff.2 (hlt.1 h)]
  · rw [orderInt_eq_iff.2 h, orderInt_eq_iff.2 (by omega)]
  · rw [orderInt_swap b a, orderInt_swap d c, orderInt_lt_iff.2 h, orderInt_lt_iff.2 (hgt.1 h)]

/-- Multiples of a positive integer compare as their factors do. -/
theorem orderInt_mul {c : Int} (hc : 0 < c) (a b : Int) :
    orderInt (a * c) (b * c) = orderInt a b :=
  orderInt_congr (Int.mul_lt_mul_right hc) (Int.mul_lt_mul_right hc)

instance : TotalOrder Int where
  order := orderInt
  order_eq_iff := orderInt_eq_iff
  order_swap := orderInt_swap
  order_trans := by
    intro a b c hab hbc
    rw [orderInt_lt_iff] at *
    omega

instance : TotalOrder Nat :=
  comap (fun n : Nat => (n : Int)) (by intro a b h; omega)

instance : TotalOrder Char :=
  comap Char.toNat (by
    intro a b h
    exact Char.ext (UInt32.toNat.inj h))

instance : TotalOrder Int64 :=
  comap Int64.toInt (by
    intro a b h
    exact Int64.toInt_inj.1 h)

/-! ## Lists and texts -/

/-- Lists element by element; a list comes before its extensions. -/
def orderList [TotalOrder κ] : List κ → List κ → Ordering
  | [], [] => .eq
  | [], _ :: _ => .lt
  | _ :: _, [] => .gt
  | a :: as, b :: bs => (order a b).then (orderList as bs)

theorem orderList_eq_iff [TotalOrder κ] {xs ys : List κ} :
    orderList xs ys = .eq ↔ xs = ys := by
  induction xs generalizing ys with
  | nil => cases ys <;> simp [orderList]
  | cons a as ih =>
    cases ys with
    | nil => simp [orderList]
    | cons b bs => simp [orderList, Ordering.then_eq_eq, order_eq_iff, ih]

theorem orderList_swap [TotalOrder κ] (xs ys : List κ) :
    orderList ys xs = (orderList xs ys).swap := by
  induction xs generalizing ys with
  | nil => cases ys <;> rfl
  | cons a as ih =>
    cases ys with
    | nil => rfl
    | cons b bs =>
      simp only [orderList, order_swap a b, ih bs]
      cases order a b <;> rfl

theorem orderList_trans [TotalOrder κ] {xs ys zs : List κ}
    (hxy : orderList xs ys = .lt) (hyz : orderList ys zs = .lt) :
    orderList xs zs = .lt := by
  induction xs generalizing ys zs with
  | nil =>
    cases ys with
    | nil => simp [orderList] at hxy
    | cons b bs => cases zs <;> simp_all [orderList]
  | cons a as ih =>
    cases ys with
    | nil => simp [orderList] at hxy
    | cons b bs =>
      cases zs with
      | nil => simp [orderList] at hyz
      | cons c cs =>
        simp only [orderList, Ordering.then_eq_lt] at hxy hyz ⊢
        rcases hxy with hab | ⟨hab, hxy⟩
        · rcases hyz with hbc | ⟨hbc, _⟩
          · exact .inl (order_trans hab hbc)
          · exact .inl (order_eq_iff.1 hbc ▸ hab)
        · rcases hyz with hbc | ⟨hbc, hyz⟩
          · exact .inl (order_eq_iff.1 hab ▸ hbc)
          · exact .inr ⟨by rw [order_eq_iff.1 hab, order_eq_iff.1 hbc, order_self], ih hxy hyz⟩

instance [TotalOrder κ] : TotalOrder (List κ) where
  order := orderList
  order_eq_iff := orderList_eq_iff
  order_swap := orderList_swap
  order_trans := orderList_trans

/-- Texts by code point. -/
instance : TotalOrder String :=
  comap String.toList (by
    intro a b h
    exact String.toList_inj.1 h)

/-! ## Absent values and pairs -/

/-- An absent value comes before every present one. -/
def orderOption [TotalOrder κ] : Option κ → Option κ → Ordering
  | none, none => .eq
  | none, some _ => .lt
  | some _, none => .gt
  | some a, some b => order a b

instance [TotalOrder κ] : TotalOrder (Option κ) where
  order := orderOption
  order_eq_iff := by
    intro a b
    cases a <;> cases b <;> simp [orderOption, order_eq_iff]
  order_swap a b := by
    cases a with
    | none => cases b <;> rfl
    | some x =>
      cases b with
      | none => rfl
      | some y => exact order_swap x y
  order_trans := by
    intro a b c hab hbc
    cases a <;> cases b <;> cases c <;> simp_all [orderOption]
    exact order_trans hab hbc

instance [TotalOrder κ] [TotalOrder ι] : TotalOrder (κ × ι) where
  order a b := (order a.1 b.1).then (order a.2 b.2)
  order_eq_iff := by
    intro a b
    simp [Ordering.then_eq_eq, order_eq_iff, Prod.ext_iff]
  order_swap a b := by
    simp only [order_swap a.1 b.1, order_swap a.2 b.2]
    cases order a.1 b.1 <;> rfl
  order_trans := by
    intro a b c hab hbc
    simp only [Ordering.then_eq_lt] at hab hbc ⊢
    rcases hab with h₁ | ⟨h₁, h₁'⟩
    · rcases hbc with h₂ | ⟨h₂, _⟩
      · exact .inl (order_trans h₁ h₂)
      · exact .inl (order_eq_iff.1 h₂ ▸ h₁)
    · rcases hbc with h₂ | ⟨h₂, h₂'⟩
      · exact .inl (order_eq_iff.1 h₁ ▸ h₂)
      · exact .inr ⟨by rw [order_eq_iff.1 h₁, order_eq_iff.1 h₂, order_self],
          order_trans h₁' h₂'⟩

end TotalOrder

end EntityQuery
