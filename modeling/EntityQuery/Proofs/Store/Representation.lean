import EntityQuery.Proofs.Store.Addressed
import EntityQuery.Proofs.Store.Fresh
import EntityQuery.Proofs.Store.Refused
import Mathlib.Algebra.BigOperators.Group.Finset.Basic

/-!
# How entities are kept

What holds of the entities, the sequences and the count of insertions of a store in memory,
whatever was asked of it.

* The count.  `writes_step` ties the count of insertions to the number of entities, and
  `Reachable.writes_eq` is that they are the same throughout; `IsFiled.sum_shelf` counts the
  entities partition by partition.
* The state.  `IsRepresented` is what holds of the parts of a store together;
  `Reachable.isRepresented` takes it from the invariants of each.
* A step.  `Extends` is that entities stay as they are and that sequences stay there;
  `extends_step` is that no step does anything else to them.
* The result.  `represented_up_to_overflow` adds where the sequences stand.
-/

namespace EntityQuery.MemoryStore

/-! ## The count of insertions -/

/-- An action counts an insertion if it makes the entities one more, and only then. -/
theorem writes_step (store : MemoryStore) (action : Action) :
    (store.step action).writes + store.entities.size =
      store.writes + (store.step action).entities.size := by
  cases action with
  | allocate key =>
    rcases allocate_cases key store with ⟨h, -⟩ | ⟨h, -⟩ | ⟨h, -⟩
    · rw [step, h]
    · rw [step, h]
    · rw [step, h]
  | insert e =>
    rcases insert_cases e store with ⟨h, -⟩ | ⟨h, -⟩ | ⟨address, -, -, ⟨old, -, h⟩ | ⟨hnone, h⟩⟩
    · rw [step, h]
    · rw [step, h]
    · rw [step, h]
    · have hsize := OrderedMap.size_insert hnone e
      rw [step, h]
      simp only [hsize]
      omega
  | query | setUnavailable => rfl

theorem writes_run (actions : List Action) (store : MemoryStore) :
    (run actions store).writes + store.entities.size =
      store.writes + (run actions store).entities.size := by
  induction actions generalizing store with
  | nil => rfl
  | cons action actions ih =>
    have hstep := writes_step store action
    have hrest : (run (action :: actions) store).writes + (store.step action).entities.size =
        (store.step action).writes + (run (action :: actions) store).entities.size :=
      ih (store.step action)
    omega

theorem Reachable.writes_eq {store : MemoryStore} (h : store.Reachable) :
    store.writes = store.entities.size := by
  obtain ⟨actions, rfl⟩ := h
  have hrun := writes_run actions empty
  have hwrites : empty.writes = 0 := rfl
  have hsize : empty.entities.size = 0 := rfl
  omega

/-- The entities of a partition are as many as the addresses in it. -/
theorem length_shelf (store : MemoryStore) (partition : Key.Partition) :
    (store.shelf partition).length =
      Multiset.count partition (store.entities.entries.map fun entry => entry.1.1) := by
  rw [shelf, List.length_map, Multiset.count, Multiset.coe_countP, List.countP_map,
    List.countP_eq_length_filter]
  refine congrArg List.length (List.filter_congr fun entry _ => Bool.eq_iff_iff.2 ?_)
  simp only [beq_iff_eq, Function.comp_apply, decide_eq_true_iff]
  exact eq_comm

/-- The entities of all partitions together are the entities of the store. -/
theorem IsFiled.sum_shelf {store : MemoryStore} (h : store.IsFiled)
    {partitions : Finset Key.Partition}
    (hall : ∀ e, store.Keeps e → e.key.partition ∈ partitions) :
    ∑ partition ∈ partitions, (store.shelf partition).length = store.entities.size := by
  have hcover : ∀ partition ∈ Multiset.ofList
      (store.entities.entries.map fun entry => entry.1.1), partition ∈ partitions := by
    intro partition hmem
    obtain ⟨⟨⟨own, ids⟩, e⟩, hentry, rfl⟩ := List.mem_map.1 (Multiset.mem_coe.1 hmem)
    have hkept := (OrderedMap.mem_entries_iff ..).1 hentry
    have hown : own = e.key.partition := Key.address?_fst (h.address hkept)
    exact hown ▸ hall e ⟨_, hkept⟩
  have hcard : Multiset.card (Multiset.ofList
      (store.entities.entries.map fun entry => entry.1.1)) = store.entities.size :=
    List.length_map _
  simp only [length_shelf]
  rw [Multiset.sum_count_eq_card hcover, hcard]

/-! ## The state -/

/-- The entities, the sequences and the count of insertions fit together. -/
structure IsRepresented (store : MemoryStore) : Prop where
  /-- An entity is kept in the partition of its key, under the ids on the path of its key, and
  there is an id at least. -/
  filed : ∀ {partition ids e}, store.entities.get? (partition, ids) = some e →
    e.key.partition = partition ∧ e.key.ids? = some ids ∧ ids ≠ []
  /-- A partition that keeps an entity under a number has a sequence. -/
  sequenced : store.HasSequences
  /-- As many insertions are counted as there are entities in all partitions. -/
  counted : ∀ partitions : Finset Key.Partition,
    (∀ e, store.Keeps e → e.key.partition ∈ partitions) →
      store.writes = ∑ partition ∈ partitions, (store.shelf partition).length

theorem Reachable.isRepresented {store : MemoryStore} (h : store.Reachable) :
    store.IsRepresented := by
  constructor
  · intro partition ids e hkept
    obtain ⟨hpartition, hpath⟩ := Key.address?_eq_some_iff.1 (h.isFiled.address hkept)
    refine ⟨hpartition, Key.mapM_id_eq_some_iff.2 hpath, ?_⟩
    rintro rfl
    exact e.key.path_ne_nil (List.map_eq_nil_iff.1 hpath)
  · exact h.hasSequences
  · intro partitions hall
    rw [h.isFiled.sum_shelf hall, h.writes_eq]

/-! ## A step -/

/-- A later store: it keeps every entity as it was, and has every sequence that there was. -/
structure Extends (later store : MemoryStore) : Prop where
  kept : ∀ {address e}, store.entities.get? address = some e →
    later.entities.get? address = some e
  sequenced : ∀ {partition}, (store.sequences.get? partition).isSome = true →
    (later.sequences.get? partition).isSome = true

theorem extends_step (store : MemoryStore) (action : Action) :
    (store.step action).Extends store :=
  ⟨fun hkept => entities_get?_step hkept action, fun hsome => sequences_isSome_step hsome action⟩

/-! ## The result -/

/-- Whatever was asked of a store, its entities, its sequences and its count fit together, and no
further request removes or replaces an entity.  A sequence is moved back by the request that takes
the number behind the greatest one, and by no other.  So it stays ahead of the numbers that
entities are kept under if and only if there is no such request, as in every run of small
numbers. -/
theorem represented_up_to_overflow (actions : List Action) :
    (run actions empty).IsRepresented ∧
      (∀ action, ((run actions empty).step action).Extends (run actions empty)) ∧
      (∀ action partition,
        ((run actions empty).step action).sequence partition <
            (run actions empty).sequence partition ↔
          (run actions empty).Overflows action partition) ∧
      (∀ partition, (∀ before, before <+: actions → (run before empty).IsAhead partition) ↔
        StaysWithin actions partition) ∧
      (UsesSmall actions → ∀ partition, StaysWithin actions partition) := by
  have hreach : (run actions empty).Reachable := ⟨actions, rfl⟩
  exact ⟨hreach.isRepresented, extends_step _, fun _ _ => sequence_step_lt_iff,
    fun _ => isAhead_throughout_iff, fun hsmall => hsmall.staysWithin⟩

/-- The number behind the greatest moves the sequence back behind the number of an entity that is
still kept. -/
theorem represented_up_to_overflow_greatest :
    (run [.insert greatestWidget] empty).Overflows (.allocate (.incomplete "Widget"))
        (none, "Widget") ∧
      overflowed.sequence (none, "Widget") <
        (run [.insert greatestWidget] empty).sequence (none, "Widget") ∧
      overflowed.get? greatestWidget.key = some greatestWidget ∧
      ¬overflowed.IsAhead (none, "Widget") := by
  have hover : (run [.insert greatestWidget] empty).Overflows (.allocate (.incomplete "Widget"))
      (none, "Widget") := ⟨.incomplete "Widget", rfl, rfl, rfl, rfl, rfl⟩
  have hnext : overflowed =
      (run [.insert greatestWidget] empty).step (.allocate (.incomplete "Widget")) := rfl
  have hkept : (run [.insert greatestWidget] empty).entities.get?
      ((none, "Widget"), [.number 9223372036854775807]) = some greatestWidget := rfl
  obtain ⟨-, hextends, hback, -, -⟩ := represented_up_to_overflow [.insert greatestWidget]
  rw [hnext]
  exact ⟨hover, (hback _ _).2 hover, (hextends _).kept hkept, hover.not_isAhead_step⟩

end EntityQuery.MemoryStore
