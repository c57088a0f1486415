import EntityQuery.Proofs.Session.BulkInsertion

/-!
# Shelves of numbered rows

Rows that are inserted into a partition with numbers only come last on its shelf, in their order,
while its sequence is ahead of them.

* One insertion.  `MemoryStore.entities_insertNext` says what it does to the entities, and
  `MemoryStore.shelf_insertNext` that the new one is the last of its partition.
* Rows.  `MemoryStore.addsRows_insertRows` is the induction over the rows of a partition.
* Kinds.  `MemoryStore.HoldsRows` says all that a store has: the rows of some kinds in one
  namespace.  `HoldsRows.insertRows` adds a kind.
-/

namespace EntityQuery.MemoryStore

/-! ## One insertion -/

variable {store : MemoryStore} {ns : Option String} {kind : String}

/-- All that an insertion under the next number does to the entities of a store that answers. -/
theorem entities_insertNext (hfiled : store.IsFiled) (hahead : store.IsAhead (ns, kind))
    (hup : store.isUnavailable = false)
    (hsmall : (store.sequence (ns, kind)).toInt < 9223372036854775807) (properties : Properties)
    (excluded : List String) :
    (store.insertNext ns kind properties excluded).entities =
      store.entities.insert ((ns, kind), [.number (store.sequence (ns, kind) + 1)])
        (.create (store.nextKey ns kind) properties excluded) := by
  obtain ⟨store₁, hallocate, -, hup₁, habsent⟩ := allocate_eq_nextKey hfiled hahead hup hsmall
  have hsame : store₁.entities = store.entities := by
    rcases entities_step store (.allocate ((Key.incomplete kind).withNamespace ns)) with
      hsame | ⟨_, _, heq, -⟩
    · rw [step, hallocate] at hsame
      exact hsame
    · cases heq
  have hinsert := insert_of_absent
    (e := .create (store.nextKey ns kind) properties excluded) hup₁ rfl habsent
  show ((store.allocate _).2.insert _).2.entities = _
  rw [hallocate, hinsert]
  exact congrArg (OrderedMap.insert · _ _) hsame

/-- The partition has numbers without ancestors only. -/
def IsNumbered (store : MemoryStore) (ns : Option String) (kind : String) : Prop :=
  ∀ e ∈ store.shelf (ns, kind), ∃ n, e.key = ⟨ns, [], ⟨kind, some (.number n)⟩⟩

/-- What is on the shelf of such a partition comes before what gets the next number. -/
theorem IsNumbered.order_next (hnumbered : store.IsNumbered ns kind) (hfiled : store.IsFiled)
    (hahead : store.IsAhead (ns, kind))
    (hsmall : (store.sequence (ns, kind)).toInt < 9223372036854775807) {ids : List KeyId}
    {e : Entity} (hget : store.entities.get? ((ns, kind), ids) = some e) :
    TotalOrder.order ((ns, kind), ids)
      ((ns, kind), [KeyId.number (store.sequence (ns, kind) + 1)]) = .lt := by
  have hmem : e ∈ store.shelf (ns, kind) := mem_shelf.2 ⟨ids, hget⟩
  obtain ⟨n, hkey⟩ := hnumbered e hmem
  have hids : ids = [.number n] := by
    have haddress := hfiled.address hget
    rw [hkey, Key.address?_root] at haddress
    exact (Prod.mk.inj (Option.some.inj haddress)).2.symm
  have hn : n.toInt ≤ (store.sequence (ns, kind)).toInt :=
    hahead.number_of_mem hmem (by rw [hkey]; rfl)
  have horder : TotalOrder.order n (store.sequence (ns, kind) + 1) = .lt := by
    refine TotalOrder.orderInt_lt_iff.2 ?_
    rw [toInt_succ hsmall]
    omega
  rw [hids]
  show (TotalOrder.order (ns, kind) (ns, kind)).then ((TotalOrder.order n _).then .eq) = .lt
  rw [TotalOrder.order_self, horder]
  rfl

theorem shelf_insertNext (hfiled : store.IsFiled) (hahead : store.IsAhead (ns, kind))
    (hup : store.isUnavailable = false)
    (hsmall : (store.sequence (ns, kind)).toInt < 9223372036854775807)
    (hnumbered : store.IsNumbered ns kind) (properties : Properties) (excluded : List String) :
    (store.insertNext ns kind properties excluded).shelf (ns, kind) =
      store.shelf (ns, kind) ++ [.create (store.nextKey ns kind) properties excluded] := by
  have hentries := OrderedMap.filter_entries_insert_last (m := store.entities)
    (p := fun address => address.1 == (ns, kind))
    ((ns, kind), [.number (store.sequence (ns, kind) + 1)])
    (beq_self_eq_true (ns, kind)) (by
      rintro ⟨partition, ids⟩ e hget hpartition
      obtain rfl : partition = (ns, kind) := eq_of_beq hpartition
      exact hnumbered.order_next hfiled hahead hsmall hget)
    (.create (store.nextKey ns kind) properties excluded)
  rw [shelf, entities_insertNext hfiled hahead hup hsmall, hentries, List.map_append]
  rfl

/-- An insertion leaves the other shelves as they are. -/
theorem shelf_insertNext_of_ne (hfiled : store.IsFiled) (hahead : store.IsAhead (ns, kind))
    (hup : store.isUnavailable = false)
    (hsmall : (store.sequence (ns, kind)).toInt < 9223372036854775807) (properties : Properties)
    (excluded : List String) {partition : Key.Partition} (hne : partition ≠ (ns, kind)) :
    (store.insertNext ns kind properties excluded).shelf partition = store.shelf partition := by
  have hentries := OrderedMap.filter_entries_congr
    (m := (store.insertNext ns kind properties excluded).entities) (n := store.entities)
    (p := fun address => address.1 == partition) (by
      rintro ⟨own, ids⟩ hown
      obtain rfl : own = partition := eq_of_beq hown
      rw [entities_insertNext hfiled hahead hup hsmall, OrderedMap.get?_insert, if_neg]
      intro heq
      exact hne (Prod.mk.inj heq).1)
  rw [shelf, shelf, hentries]

/-! ## Rows -/

/-- What a store is after rows were put last on the shelf of a partition, under the next
numbers. -/
structure AddsRows (store : MemoryStore) (ns : Option String) (kind : String)
    (rows : List Properties) (excluded : List String) (store' : MemoryStore) : Prop where
  isFiled : store'.IsFiled
  isUnavailable : store'.isUnavailable = false
  sequence_eq : store'.sequence (ns, kind) =
    store.sequence (ns, kind) + Int64.ofNat rows.length
  sequence_eq_of_ne : ∀ partition, partition ≠ (ns, kind) →
    store'.sequence partition = store.sequence partition
  shelf_eq : store'.shelf (ns, kind) = store.shelf (ns, kind) ++ rows.mapIdx fun i row =>
    .create (.numbered ns kind (store.sequence (ns, kind) + 1 + Int64.ofNat i)) row excluded
  shelf_eq_of_ne : ∀ partition, partition ≠ (ns, kind) →
    store'.shelf partition = store.shelf partition

theorem addsRows_insertRows (rows : List Properties) (excluded : List String)
    (hfiled : store.IsFiled) (hahead : store.IsAhead (ns, kind))
    (hup : store.isUnavailable = false)
    (hsmall : (store.sequence (ns, kind)).toInt + rows.length ≤ 9223372036854775807)
    (hnumbered : store.IsNumbered ns kind) :
    store.AddsRows ns kind rows excluded (store.insertRows ns kind rows excluded) := by
  induction rows generalizing store with
  | nil =>
    exact ⟨hfiled, hup, (Int64.add_zero _).symm, fun _ _ => rfl, (List.append_nil _).symm,
      fun _ _ => rfl⟩
  | cons row rows ih =>
    rw [List.length_cons] at hsmall
    have hnext : (store.sequence (ns, kind)).toInt < 9223372036854775807 := by omega
    have hsequence : (store.insertNext ns kind row excluded).sequence (ns, kind) =
        store.sequence (ns, kind) + 1 := sequence_insertNext hup row excluded
    have hshelf := shelf_insertNext hfiled hahead hup hnext hnumbered row excluded
    have hnumbered' : (store.insertNext ns kind row excluded).IsNumbered ns kind := by
      intro e hmem
      rw [hshelf, List.mem_append, List.mem_singleton] at hmem
      rcases hmem with hmem | rfl
      · exact hnumbered e hmem
      · exact ⟨_, rfl⟩
    have hfiled₁ : (store.insertNext ns kind row excluded).IsFiled := hfiled.run _
    obtain ⟨hfiled', hup', hown, hothers, hrows, hkept⟩ := ih hfiled₁
      (hahead.insertNext hnext row excluded) ((isUnavailable_insertNext ..).trans hup)
      (by rw [hsequence, toInt_succ hnext]; omega) hnumbered'
    rw [hsequence] at hown hrows
    refine ⟨hfiled', hup', ?_, ?_, ?_, ?_⟩
    · rw [List.length_cons, ← add_one_add_ofNat]
      exact hown
    · intro partition hne
      exact (hothers partition hne).trans
        ((sequence_insertNext_eq hup row excluded partition).trans (if_neg hne))
    · refine hrows.trans ?_
      simp only [hshelf, add_one_add_ofNat, List.append_assoc, List.mapIdx_cons]
      rfl
    · intro partition hne
      exact (hkept partition hne).trans
        (shelf_insertNext_of_ne hfiled hahead hup hnext row excluded hne)

/-! ## Kinds -/

/-- A store has the rows of some kinds in a namespace, each kind under the numbers from one on in
order, and nothing else. -/
structure HoldsRows (store : MemoryStore) (ns : Option String)
    (kinds : List (String × List Properties)) : Prop where
  isFiled : store.IsFiled
  isUnavailable : store.isUnavailable = false
  shelf_eq : ∀ {kind rows}, (kind, rows) ∈ kinds →
    store.shelf (ns, kind) =
      rows.mapIdx fun i row => ⟨.numbered ns kind (Int64.ofNat (i + 1)), row, []⟩
  shelf_eq_nil : ∀ {partition}, (∀ kind ∈ kinds.map Prod.fst, partition ≠ (ns, kind)) →
    store.shelf partition = []
  sequence_eq_zero : ∀ {kind}, kind ∉ kinds.map Prod.fst → store.sequence (ns, kind) = 0

theorem holdsRows_empty (ns : Option String) : empty.HoldsRows ns [] :=
  ⟨isFiled_empty, rfl, fun h => (nomatch h), fun _ => rfl, fun _ => rfl⟩

variable {kinds : List (String × List Properties)}

/-- A new kind has nothing on its shelf. -/
theorem HoldsRows.shelf_new (h : store.HoldsRows ns kinds) (hnew : kind ∉ kinds.map Prod.fst) :
    store.shelf (ns, kind) = [] := by
  refine h.shelf_eq_nil fun other hmem heq => hnew ?_
  rwa [← (Prod.mk.inj heq).2] at hmem

theorem HoldsRows.isAhead (h : store.HoldsRows ns kinds) (hnew : kind ∉ kinds.map Prod.fst) :
    store.IsAhead (ns, kind) := by
  constructor
  · rw [h.sequence_eq_zero hnew]
    exact Int64.le_refl 0
  · intro ids e n hget
    have hmem : e ∈ store.shelf (ns, kind) := mem_shelf.2 ⟨ids, hget⟩
    rw [h.shelf_new hnew] at hmem
    cases hmem

/-- The rows of a new kind are added to those of the others. -/
theorem HoldsRows.insertRows (h : store.HoldsRows ns kinds) (hnew : kind ∉ kinds.map Prod.fst)
    {rows : List Properties} (hsmall : rows.length ≤ 9223372036854775807) :
    (store.insertRows ns kind rows []).HoldsRows ns (kinds ++ [(kind, rows)]) := by
  have hzero : store.sequence (ns, kind) = 0 := h.sequence_eq_zero hnew
  have hnone : store.shelf (ns, kind) = [] := h.shelf_new hnew
  have hnumbered : store.IsNumbered ns kind := by
    intro e hmem
    rw [hnone] at hmem
    cases hmem
  obtain ⟨hfiled, hup, -, hothers, hown, hkept⟩ :=
    addsRows_insertRows rows [] h.isFiled (h.isAhead hnew) h.isUnavailable
      (by rw [hzero, Int64.toInt_zero]; omega) hnumbered
  rw [hnone, hzero, List.nil_append] at hown
  refine ⟨hfiled, hup, ?_, ?_, ?_⟩
  · intro other own hmem
    rcases List.mem_append.1 hmem with hmem | hmem
    · have hne : (ns, other) ≠ (ns, kind) := by
        intro heq
        have hother := List.mem_map_of_mem (f := Prod.fst) hmem
        rw [(Prod.mk.inj heq).2] at hother
        exact hnew hother
      rw [hkept _ hne, h.shelf_eq hmem]
    · cases List.mem_singleton.1 hmem
      rw [hown]
      congr
      funext i row
      rw [add_one_add_ofNat, Int64.zero_add]
      rfl
  · intro partition hmem
    simp only [List.map_append, List.mem_append, List.map_cons, List.map_nil,
      List.mem_singleton] at hmem
    rw [hkept _ (hmem kind (.inr rfl))]
    exact h.shelf_eq_nil fun other hother => hmem other (.inl hother)
  · intro other hmem
    simp only [List.map_append, List.mem_append, List.map_cons, List.map_nil,
      List.mem_singleton, not_or] at hmem
    rw [hothers _ fun heq => hmem.2 (Prod.mk.inj heq).2]
    exact h.sequence_eq_zero hmem.1

end EntityQuery.MemoryStore
