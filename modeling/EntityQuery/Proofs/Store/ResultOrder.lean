import EntityQuery.Proofs.Json.SortOrder
import Mathlib.Data.List.Pairwise
import Mathlib.Data.List.Perm.Basic

/-!
# The order of results

The entities that a query returns are sorted by fields, and those that are equal there stay in
the order of their ids.

* Comparing.  `Statement.transCmp_keyOrder`: entities compare by their sort keys in a lawful
  way, and `Statement.CanSort.orderBySpecs_eq` is that they are sorted in this way.
* Sorting.  `pairwise_mergeSort_then`: a stable sort of a list in one order refines another
  order by it.
* The result.  `Statement.pairwise_resultOrder`: the entities that are found are sorted into
  strictly ascending order.
-/

namespace EntityQuery

open TotalOrder

/-! ## Comparing -/

/-- Views into an ordered type are compared in a lawful way. -/
theorem TotalOrder.transCmp_view {α κ : Type} [TotalOrder κ] (view : α → κ) :
    Std.TransCmp fun a b => order (view a) (view b) where
  eq_swap := order_swap _ _
  isLE_trans := by
    intro a b c hab hbc
    cases hab' : order (view a) (view b) with
    | gt => rw [hab'] at hab; cases hab
    | eq => rwa [order_eq_iff.1 hab']
    | lt =>
      cases hbc' : order (view b) (view c) with
      | gt => rw [hbc'] at hbc; cases hbc
      | eq => rwa [← order_eq_iff.1 hbc']
      | lt => rw [order_trans hab' hbc']; rfl

namespace Statement

/-- The order of two entities by the sort keys of one field. -/
def fieldOrder (spec : SortSpec) (a b : Entity) : Ordering :=
  match spec.direction with
  | .ascending => order (Json.sortKey (a.get? spec.field)) (Json.sortKey (b.get? spec.field))
  | .descending => order (Json.sortKey (b.get? spec.field)) (Json.sortKey (a.get? spec.field))

/-- The order of two entities by the sort keys of the fields to sort by. -/
def keyOrder : List SortSpec → Entity → Entity → Ordering
  | [] => fun _ _ => .eq
  | spec :: specs => compareLex (fieldOrder spec) (keyOrder specs)

theorem transCmp_fieldOrder (spec : SortSpec) : Std.TransCmp (fieldOrder spec) := by
  have hview := transCmp_view fun e : Entity => Json.sortKey (e.get? spec.field)
  unfold fieldOrder
  cases spec.direction with
  | ascending => exact hview
  | descending => exact Std.TransCmp.opposite

/-- Sort keys compare entities in a lawful way, whatever the fields and their directions. -/
theorem transCmp_keyOrder (specs : List SortSpec) : Std.TransCmp (keyOrder specs) := by
  induction specs with
  | nil => exact { eq_swap := rfl, isLE_trans := fun _ _ => rfl }
  | cons spec specs ih =>
    have hfield := transCmp_fieldOrder spec
    rw [keyOrder]
    infer_instance

/-- The values that each field to sort by has in the given entities can be sorted. -/
def CanSort (specs : List SortSpec) (members : Entity → Prop) : Prop :=
  ∀ spec ∈ specs, Json.IsSortable fun v => ∃ e, members e ∧ e.get? spec.field = some v

/-- Entities of which the values can be sorted are in the order of their sort keys. -/
theorem CanSort.orderBySpecs_eq {specs : List SortSpec} {members : Entity → Prop}
    (h : CanSort specs members) {a b : Entity} (ha : members a) (hb : members b) :
    orderBySpecs specs a b = keyOrder specs a b := by
  induction specs with
  | nil => rfl
  | cons spec specs ih =>
    have hcolumn := h spec List.mem_cons_self
    have hrest := ih fun other hmem => h other (List.mem_cons_of_mem _ hmem)
    have hsort : Json.sortOrder (a.get? spec.field) (b.get? spec.field) =
        order (Json.sortKey (a.get? spec.field)) (Json.sortKey (b.get? spec.field)) :=
      hcolumn.sortOrder_eq (fun v hv => ⟨a, ha, hv⟩) (fun v hv => ⟨b, hb, hv⟩)
    rw [orderBySpecs, keyOrder, compareLex, hrest, hsort]
    congr 1
    unfold fieldOrder
    cases spec.direction with
    | ascending => rfl
    | descending => exact (order_swap _ _).symm

end Statement

/-! ## Sorting -/

section Sorting

variable {α : Type}

/-- Of two entries of a list, one stands before the other. -/
theorem pair_sublist_or {l : List α} {a b : α} (ha : a ∈ l) (hb : b ∈ l) (hne : a ≠ b) :
    [a, b].Sublist l ∨ [b, a].Sublist l := by
  have hsymm : Std.Symm fun x y => [x, y].Sublist l ∨ [y, x].Sublist l := ⟨fun _ _ => Or.symm⟩
  have hpairs : l.Pairwise fun x y => [x, y].Sublist l ∨ [y, x].Sublist l :=
    List.pairwise_iff_forall_sublist.2 .inl
  exact hpairs.forall ha hb hne

/-- Where no entry occurs twice, two entries do not stand in both orders. -/
theorem eq_of_pair_sublists {l : List α} {a b : α} (hnodup : l.Nodup) (hab : [a, b].Sublist l)
    (hba : [b, a].Sublist l) : a = b := by
  have heq := (List.Nodup.perm_iff_eq_of_sublist hnodup hab hba).1 (List.Perm.swap ..)
  exact (List.cons.inj heq).1

section Comparison

variable {cmp : α → α → Ordering} [Std.TransCmp cmp]

theorem bne_gt_trans (a b c : α) (hab : (cmp a b != .gt) = true) (hbc : (cmp b c != .gt) = true) :
    (cmp a c != .gt) = true := by
  rw [bne_iff_ne, ne_eq, ← Ordering.isLE_iff_ne_gt] at *
  exact Std.TransCmp.isLE_trans hab hbc

theorem bne_gt_total (a b : α) : ((cmp a b != .gt) || (cmp b a != .gt)) = true := by
  have hswap : cmp b a = (cmp a b).swap := Std.OrientedCmp.eq_swap
  rw [hswap]
  cases cmp a b <;> rfl

end Comparison

/-- Sorting a list, which is in one order, by another puts it into the order of the latter with
ties broken by the former. -/
theorem pairwise_mergeSort_then {tie : α → α → Ordering} [Std.ReflCmp tie] {l : List α}
    (hl : l.Pairwise fun a b => tie a b = .lt) (cmp : α → α → Ordering) [Std.TransCmp cmp] :
    (l.mergeSort fun a b => cmp a b != .gt).Pairwise fun a b =>
      (cmp a b).then (tie a b) = .lt := by
  have hnodup : l.Nodup := by
    refine hl.imp ?_
    rintro a b hlt rfl
    have hself : tie a a = .eq := Std.ReflCmp.compare_self
    rw [hself] at hlt
    cases hlt
  have hperm := List.mergeSort_perm l fun a b => cmp a b != .gt
  have hnodup' := hperm.nodup_iff.2 hnodup
  have hsorted : (l.mergeSort fun a b => cmp a b != .gt).Pairwise fun a b =>
      (cmp a b != .gt) = true := List.pairwise_mergeSort bne_gt_trans bne_gt_total l
  rw [List.pairwise_iff_forall_sublist]
  intro a b hab
  have hle := List.pairwise_iff_forall_sublist.1 hsorted hab
  rw [Ordering.then_eq_lt]
  cases hcmp : cmp a b with
  | gt => simp [hcmp] at hle
  | lt => exact .inl rfl
  | eq =>
    refine .inr ⟨rfl, ?_⟩
    have hne : a ≠ b := List.pairwise_iff_forall_sublist.1 hnodup' hab
    have ha : a ∈ l := hperm.mem_iff.1 (hab.subset (by simp))
    have hb : b ∈ l := hperm.mem_iff.1 (hab.subset (by simp))
    rcases pair_sublist_or ha hb hne with hpair | hpair
    · exact List.pairwise_iff_forall_sublist.1 hl hpair
    · -- a tie the other way round would have been kept
      have hback : (cmp b a != .gt) = true := by
        rw [Std.OrientedCmp.eq_comm.1 hcmp]
        rfl
      have hba := List.pair_sublist_mergeSort bne_gt_trans bne_gt_total hback hpair
      exact absurd (eq_of_pair_sublists hnodup' hab hba) hne

/-- Comparisons that agree on a list sort it in the same way. -/
theorem mergeSort_congr {r s : α → α → Bool} {l : List α}
    (h : ∀ a ∈ l, ∀ b ∈ l, r a b = s a b) : l.mergeSort r = l.mergeSort s := by
  have hmap : (l.mergeSort r).map id = (l.map id).mergeSort s := List.map_mergeSort h
  rwa [List.map_id, List.map_id] at hmap

end Sorting

namespace Statement

/-! ## The result -/

/-- The order of the entities that a query returns: by the fields to sort by, the most significant
first, and then by the ids on their paths. -/
def resultOrder (s : Statement) (a b : Entity) : Ordering :=
  (orderBySpecs s.orders a b).then (order a.key.ids? b.key.ids?)

/-- Entities in the order of their ids are sorted into strictly ascending order, if the values of
those that are found can be sorted. -/
theorem pairwise_resultOrder {s : Statement} {entities : List Entity}
    (hids : entities.Pairwise fun a b => order a.key.ids? b.key.ids? = .lt)
    (hcan : CanSort s.orders fun e => e ∈ entities ∧ s.finds e = true) :
    ((entities.filter s.finds).mergeSort fun a b => orderBySpecs s.orders a b != .gt).Pairwise
      fun a b => s.resultOrder a b = .lt := by
  have hagree : ∀ a ∈ entities.filter s.finds, ∀ b ∈ entities.filter s.finds,
      orderBySpecs s.orders a b = keyOrder s.orders a b := fun a ha b hb =>
    hcan.orderBySpecs_eq (List.mem_filter.1 ha) (List.mem_filter.1 hb)
  have hsame : ((entities.filter s.finds).mergeSort fun a b => orderBySpecs s.orders a b != .gt) =
      (entities.filter s.finds).mergeSort fun a b => keyOrder s.orders a b != .gt :=
    mergeSort_congr fun a ha b hb => by rw [hagree a ha b hb]
  have hkeys := transCmp_keyOrder s.orders
  have htie := transCmp_view fun e : Entity => e.key.ids?
  have hsorted := pairwise_mergeSort_then (hids.filter s.finds) (keyOrder s.orders)
  rw [hsame]
  refine hsorted.imp_of_mem ?_
  intro a b ha hb hlt
  rw [resultOrder, hagree a (List.mem_mergeSort.1 ha) b (List.mem_mergeSort.1 hb)]
  exact hlt

end Statement

end EntityQuery
