import EntityQuery.Proofs.Store.Run
import Mathlib.Data.List.Induction

/-!
# Sequences

The sequence of a partition is the last number that was given out there, or the greatest that an
entity was inserted under since.  Behind the greatest integer of 64 bits it goes on with the least.

* One action.  `Gives` is that an action is given a number, and `Tries` that one tries to insert
  under it.  `numbers_step` is all that an action does to the sequences.
* Overflow.  `Overflows` is that an action is given the number behind the greatest.  By
  `sequence_step_lt_iff` this moves a sequence back, and nothing else does.
* Being ahead.  `IsAhead` is that a sequence is ahead of all numbers that entities are kept under.
  The actions that do not overflow keep it, and `isAhead_throughout_iff` says so of whole runs.
* Being there.  `HasSequences` is that a partition has a sequence once it has an entity under a
  number.
-/

namespace EntityQuery.MemoryStore

/-! ## Numbers -/

theorem toInt_succ {n : Int64} (h : n.toInt < 9223372036854775807) :
    (n + 1).toInt = n.toInt + 1 := by
  have hlower := n.le_toInt
  have hone : (1 : Int64).toInt = 1 := rfl
  rw [Int64.toInt_add, hone]
  exact Int.bmod_eq_of_le (by omega) (by omega)

theorem toInt_max (m n : Int64) : (max m n).toInt = max m.toInt n.toInt := by
  show (if m ≤ n then n else m).toInt = _
  split
  · next h => rw [Int.max_eq_right (Int64.le_iff_toInt_le.1 h)]
  · next h =>
    have hlt : ¬m.toInt ≤ n.toInt := mt Int64.le_iff_toInt_le.2 h
    rw [Int.max_eq_left (by omega)]

theorem max_eq_left_of_not_lt {m n : Int64} (h : ¬m < n) : max m n = m := by
  rw [Int64.lt_iff_toInt_lt] at h
  rw [← Int64.toInt_inj, toInt_max, Int.max_eq_left (by omega)]

theorem eq_maxValue_iff {n : Int64} : n = Int64.maxValue ↔ n.toInt = 9223372036854775807 :=
  Int64.toInt_inj.symm

/-! ## The sequences of a store -/

variable {store store' : MemoryStore} {action : Action} {partition : Key.Partition}

theorem sequence_congr (h : store.sequences = store'.sequences) (partition : Key.Partition) :
    store.sequence partition = store'.sequence partition := by
  rw [sequence, sequence, h]

/-- The sequences after one of them was set. -/
theorem sequence_insert {n : Int64} (h : store'.sequences = store.sequences.insert partition n)
    (other : Key.Partition) :
    store'.sequence other = if other = partition then n else store.sequence other := by
  rw [sequence, h, OrderedMap.get?_insert]
  split <;> rfl

/-- What becomes of a sequence when an entity is inserted under a key: it moves up to the number in
the key, if there is one that it has not come to. -/
def reach (last : Int64) (key : Key) : Int64 :=
  match key.id with
  | some (.number id) => max last id
  | _ => last

theorem reach_of_number {key : Key} {n : Int64} (h : key.id = some (.number n)) (last : Int64) :
    reach last key = max last n := by
  rw [reach, h]

theorem reach_of_unnumbered {key : Key} (h : ∀ n, key.id ≠ some (.number n)) (last : Int64) :
    reach last key = last := by
  rw [reach]
  split
  · next id hid => exact absurd hid (h id)
  · rfl

/-- A sequence stays where it is, or comes to the number in the key. -/
theorem reach_cases (last : Int64) (key : Key) :
    reach last key = last ∨ ∃ n, key.id = some (.number n) ∧ reach last key = n := by
  by_cases hnumber : ∃ n, key.id = some (.number n)
  · obtain ⟨n, hid⟩ := hnumber
    rw [reach_of_number hid]
    by_cases hle : last ≤ n
    · exact .inr ⟨n, hid, if_pos hle⟩
    · exact .inl (if_neg hle)
  · exact .inl (reach_of_unnumbered (fun n hid => hnumber ⟨n, hid⟩) last)

theorem le_reach (last : Int64) (key : Key) : last.toInt ≤ (reach last key).toInt := by
  rw [reach]
  split
  · rw [toInt_max]
    exact Int.le_max_left ..
  · exact Int.le_refl _

/-- Inserting under a key sets the sequence of its partition if the key has a number, and none
otherwise. -/
theorem advance_cases (store : MemoryStore) (key : Key) :
    (∀ n, key.id ≠ some (.number n)) ∧ store.advance key = store.sequences ∨
    ∃ n, key.id = some (.number n) ∧ store.advance key =
      store.sequences.insert key.partition (max (store.sequence key.partition) n) := by
  cases hid : key.id with
  | none =>
    refine .inl ⟨?_, by rw [advance, hid]⟩
    intro n h
    cases h
  | some id =>
    cases id with
    | name s =>
      refine .inl ⟨?_, by rw [advance, hid]⟩
      intro n h
      cases h
    | number n => exact .inr ⟨n, rfl, by rw [advance, hid]⟩

theorem get?_advance_of_ne {key : Key} (h : partition ≠ key.partition) (store : MemoryStore) :
    (store.advance key).get? partition = store.sequences.get? partition := by
  rcases advance_cases store key with ⟨-, hsame⟩ | ⟨n, -, hset⟩
  · rw [hsame]
  · rw [hset, OrderedMap.get?_insert, if_neg h]

theorem sequence_advance {key : Key} (h : store'.sequences = store.advance key)
    (partition : Key.Partition) :
    store'.sequence partition =
      if partition = key.partition then reach (store.sequence partition) key
      else store.sequence partition := by
  rcases advance_cases store key with ⟨hnone, hsame⟩ | ⟨n, hid, hset⟩
  · rw [reach_of_unnumbered hnone, ite_self, sequence_congr (h.trans hsame)]
  · rw [sequence_insert (h.trans hset), reach_of_number hid]
    by_cases hpartition : partition = key.partition
    · rw [if_pos hpartition, if_pos hpartition, hpartition]
    · rw [if_neg hpartition, if_neg hpartition]

/-! ## One action -/

/-- The action asks for the id of an incomplete key in the partition, and is given the number. -/
def Gives (store : MemoryStore) (action : Action) (partition : Key.Partition) (n : Int64) : Prop :=
  ∃ key answer, action = .allocate key ∧ key.isIncomplete = true ∧ key.partition = partition ∧
    (store.allocate key).1 = .ok answer ∧ answer.id = some (.number n)

/-- The action tries to insert under a key of the partition that ends with the number, and the
store answers and finds the key complete. -/
def Tries (store : MemoryStore) (action : Action) (partition : Key.Partition) (n : Int64) : Prop :=
  ∃ e, action = .insert e ∧ store.isUnavailable = false ∧ e.key.address?.isSome = true ∧
    e.key.partition = partition ∧ e.key.id = some (.number n)

theorem not_tries_allocate {key : Key} {n : Int64} : ¬Tries store (.allocate key) partition n := by
  rintro ⟨e, heq, -⟩
  cases heq

theorem not_gives_insert {e : Entity} {n : Int64} : ¬Gives store (.insert e) partition n := by
  rintro ⟨key, answer, heq, -⟩
  cases heq

/-- The number that an incomplete key is given. -/
theorem gives_allocate {key : Key} (hup : store.isUnavailable = false)
    (hkey : key.isIncomplete = true) {n : Int64} :
    Gives store (.allocate key) partition n ↔
      key.partition = partition ∧ store.sequence key.partition + 1 = n := by
  have hgives := allocate_of_incomplete key hup hkey
  constructor
  · rintro ⟨other, answer, heq, -, hpartition, hanswer, hid⟩
    cases heq
    rw [hgives] at hanswer
    cases hanswer
    rw [Key.id_withId] at hid
    cases hid
    exact ⟨hpartition, rfl⟩
  · rintro ⟨hpartition, rfl⟩
    exact ⟨key, _, rfl, hkey, hpartition, by rw [hgives], rfl⟩

/-- A store that gives a number out answers. -/
theorem Gives.isUnavailable_eq {n : Int64} (h : Gives store action partition n) :
    store.isUnavailable = false := by
  obtain ⟨key, answer, rfl, -, -, hanswer, -⟩ := h
  rcases allocate_cases key store with ⟨hdown, -⟩ | ⟨-, hup, -⟩ | ⟨-, hup, -⟩
  · rw [hdown] at hanswer
    cases hanswer
  · exact hup
  · exact hup

/-- A number that is given out is where the sequence of the partition is then. -/
theorem Gives.sequence_step {n : Int64} (h : Gives store action partition n) :
    (store.step action).sequence partition = n := by
  have hup := h.isUnavailable_eq
  obtain ⟨key, answer, rfl, hkey, rfl, hanswer, hid⟩ := h
  have hgives := allocate_of_incomplete key hup hkey
  rw [hgives] at hanswer
  cases hanswer
  rw [Key.id_withId] at hid
  cases hid
  rw [step, hgives, sequence_insert rfl, if_pos rfl]

/-- What an action does to the sequences: nothing, if it is about no number; one step on, if a
number is given out; and up to the number that an insertion is tried under. -/
theorem numbers_step (store : MemoryStore) (action : Action) :
    ((∀ partition, (store.step action).sequence partition = store.sequence partition) ∧
      ∀ partition n, ¬Gives store action partition n ∧ ¬Tries store action partition n) ∨
    (∃ key, action = .allocate key ∧ store.isUnavailable = false ∧ key.isIncomplete = true ∧
      ∀ partition, (store.step action).sequence partition =
        if partition = key.partition then store.sequence key.partition + 1
        else store.sequence partition) ∨
    ∃ e, action = .insert e ∧ store.isUnavailable = false ∧ e.key.address?.isSome = true ∧
      ∀ partition, (store.step action).sequence partition =
        if partition = e.key.partition then reach (store.sequence partition) e.key
        else store.sequence partition := by
  cases action with
  | allocate key =>
    rcases allocate_cases key store with ⟨h, hdown⟩ | ⟨h, hup, hcomplete⟩ | ⟨h, hup, hkey⟩
    · refine .inl ⟨fun _ => by rw [step, h], fun partition n => ⟨?_, not_tries_allocate⟩⟩
      intro hgives
      rw [hgives.isUnavailable_eq] at hdown
      cases hdown
    · refine .inl ⟨fun _ => by rw [step, h], fun partition n => ⟨?_, not_tries_allocate⟩⟩
      rintro ⟨other, answer, heq, hkey, -⟩
      cases heq
      rw [hcomplete] at hkey
      cases hkey
    · exact .inr (.inl ⟨key, rfl, hup, hkey, sequence_insert (by rw [step, h])⟩)
  | insert e =>
    rcases insert_cases e store with ⟨h, hdown⟩ | ⟨h, hup, hnone⟩ | ⟨address, haddress, hup, hcases⟩
    · refine .inl ⟨fun _ => by rw [step, h], fun partition n => ⟨not_gives_insert, ?_⟩⟩
      rintro ⟨other, -, hup, -⟩
      rw [hup] at hdown
      cases hdown
    · refine .inl ⟨fun _ => by rw [step, h], fun partition n => ⟨not_gives_insert, ?_⟩⟩
      rintro ⟨other, heq, -, hsome, -⟩
      cases heq
      rw [hnone] at hsome
      cases hsome
    · have hset : (store.step (.insert e)).sequences = store.advance e.key := by
        rcases hcases with ⟨old, -, h⟩ | ⟨-, h⟩
        · rw [step, h]
        · rw [step, h]
      exact .inr (.inr ⟨e, rfl, hup, by rw [haddress]; rfl, sequence_advance hset⟩)
  | query | setUnavailable =>
    refine .inl ⟨fun _ => rfl, fun partition n => ⟨?_, ?_⟩⟩
    · rintro ⟨key, answer, heq, -⟩
      cases heq
    · rintro ⟨e, heq, -⟩
      cases heq

/-! ## Overflow -/

/-- The action asks for the id of an incomplete key in the partition while its sequence is at the
greatest number, so that the least is given out. -/
def Overflows (store : MemoryStore) (action : Action) (partition : Key.Partition) : Prop :=
  ∃ key, action = .allocate key ∧ store.isUnavailable = false ∧ key.isIncomplete = true ∧
    key.partition = partition ∧ store.sequence partition = Int64.maxValue

theorem not_overflows_of_lt (h : (store.sequence partition).toInt < 9223372036854775807)
    (action : Action) : ¬store.Overflows action partition := by
  rintro ⟨-, -, -, -, -, hlast⟩
  have hgreatest := eq_maxValue_iff.1 hlast
  omega

theorem not_overflows_insert (store : MemoryStore) (e : Entity) (partition : Key.Partition) :
    ¬store.Overflows (.insert e) partition := by
  rintro ⟨key, heq, -⟩
  cases heq

theorem overflows_allocate {key : Key} (hup : store.isUnavailable = false)
    (hkey : key.isIncomplete = true) :
    store.Overflows (.allocate key) partition ↔
      key.partition = partition ∧ store.sequence partition = Int64.maxValue := by
  constructor
  · rintro ⟨other, heq, -, -, hpartition, hlast⟩
    cases heq
    exact ⟨hpartition, hlast⟩
  · rintro ⟨hpartition, hlast⟩
    exact ⟨key, rfl, hup, hkey, hpartition, hlast⟩

/-- Behind the greatest number comes the least. -/
theorem Overflows.sequence_step (h : store.Overflows action partition) :
    (store.step action).sequence partition = Int64.minValue := by
  obtain ⟨key, rfl, hup, hkey, rfl, hlast⟩ := h
  have hleast : Int64.maxValue + 1 = Int64.minValue := rfl
  have hgives : Gives store (.allocate key) key.partition Int64.minValue :=
    (gives_allocate hup hkey).2 ⟨rfl, by rw [hlast, hleast]⟩
  exact hgives.sequence_step

theorem sequence_le_step (h : ¬store.Overflows action partition) :
    (store.sequence partition).toInt ≤ ((store.step action).sequence partition).toInt := by
  rcases numbers_step store action with
    ⟨hsame, -⟩ | ⟨key, rfl, hup, hkey, hset⟩ | ⟨e, rfl, -, -, hset⟩
  · exact Int.le_of_eq (congrArg Int64.toInt (hsame partition).symm)
  · rw [hset]
    split
    · next hpartition =>
      have hlast : store.sequence partition ≠ Int64.maxValue := fun hlast =>
        h ((overflows_allocate hup hkey).2 ⟨hpartition.symm, hlast⟩)
      have hupper := (store.sequence partition).toInt_lt
      rw [ne_eq, eq_maxValue_iff] at hlast
      rw [← hpartition, toInt_succ (by omega)]
      omega
    · exact Int.le_refl _
  · rw [hset]
    split
    · exact le_reach ..
    · exact Int.le_refl _

/-- A sequence is moved back by an overflow, and by nothing else. -/
theorem sequence_step_lt_iff :
    (store.step action).sequence partition < store.sequence partition ↔
      store.Overflows action partition := by
  rw [Int64.lt_iff_toInt_lt]
  constructor
  · intro hlt
    by_contra hwithin
    have hle := sequence_le_step hwithin
    omega
  · intro h
    rw [h.sequence_step]
    obtain ⟨-, -, -, -, -, hlast⟩ := h
    rw [hlast]
    decide

/-- The run gives out no number of the partition behind the greatest one. -/
def StaysWithin (actions : List Action) (partition : Key.Partition) : Prop :=
  ¬Occurs (fun store action => store.Overflows action partition) actions

/-- The stores that a run from the empty one leads to which gives out no number of the partition
behind the greatest one. -/
def ReachableWithin (store : MemoryStore) (partition : Key.Partition) : Prop :=
  ∃ actions, StaysWithin actions partition ∧ run actions empty = store

theorem reachableWithin_empty (partition : Key.Partition) : empty.ReachableWithin partition :=
  ⟨[], not_occurs_nil _, rfl⟩

theorem ReachableWithin.step (h : store.ReachableWithin partition)
    (hwithin : ¬store.Overflows action partition) :
    (store.step action).ReachableWithin partition := by
  obtain ⟨actions, hactions, rfl⟩ := h
  refine ⟨actions ++ [action], fun hoccurs => ?_, run_concat ..⟩
  rcases occurs_concat.1 hoccurs with hbefore | hnow
  · exact hactions hbefore
  · exact hwithin hnow

theorem ReachableWithin.reachable (h : store.ReachableWithin partition) : store.Reachable := by
  obtain ⟨actions, -, hrun⟩ := h
  exact ⟨actions, hrun⟩

/-! ## Being ahead -/

/-- The sequence of the partition is not negative, and no number that an entity of the partition is
kept under is ahead of it. -/
structure IsAhead (store : MemoryStore) (partition : Key.Partition) : Prop where
  nonneg : 0 ≤ store.sequence partition
  number : ∀ {ids e n}, store.entities.get? (partition, ids) = some e →
    e.key.id = some (.number n) → n ≤ store.sequence partition

theorem isAhead_empty (partition : Key.Partition) : empty.IsAhead partition :=
  ⟨Int64.le_refl 0, fun h _ => (nomatch h)⟩

theorem IsAhead.step (h : store.IsAhead partition) (hwithin : ¬store.Overflows action partition) :
    (store.step action).IsAhead partition := by
  have hle := Int64.le_iff_toInt_le.2 (sequence_le_step hwithin)
  constructor
  · exact Int64.le_trans h.nonneg hle
  · intro ids e n he hid
    rcases entities_step store action with hsame | ⟨new, place, rfl, haddress, -, hinsert, hset⟩
    · rw [hsame] at he
      exact Int64.le_trans (h.number he hid) hle
    · rw [hinsert, OrderedMap.get?_insert] at he
      split at he
      · next heq =>
        cases he
        cases heq
        have hpartition : partition = e.key.partition := Key.address?_fst haddress
        rw [sequence_advance hset, if_pos hpartition, reach_of_number hid, Int64.le_iff_toInt_le,
          toInt_max]
        exact Int.le_max_right ..
      · exact Int64.le_trans (h.number he hid) hle

theorem Overflows.not_isAhead_step (h : store.Overflows action partition) :
    ¬(store.step action).IsAhead partition := by
  intro hahead
  have hnonneg := hahead.nonneg
  rw [h.sequence_step] at hnonneg
  exact absurd hnonneg (by decide)

theorem isAhead_run {actions : List Action} (h : StaysWithin actions partition) :
    (run actions empty).IsAhead partition := by
  induction actions using List.reverseRecOn with
  | nil => exact isAhead_empty partition
  | append_singleton actions action ih =>
    rw [run_concat]
    have hbefore := ih fun hoccurs => h (occurs_concat.2 (.inl hoccurs))
    exact hbefore.step fun hnow => h (occurs_concat.2 (.inr hnow))

theorem ReachableWithin.isAhead (h : store.ReachableWithin partition) :
    store.IsAhead partition := by
  obtain ⟨actions, hactions, rfl⟩ := h
  exact isAhead_run hactions

/-- A sequence is ahead at every point of a run if and only if no number of the partition is given
out behind the greatest one. -/
theorem isAhead_throughout_iff {actions : List Action} :
    (∀ before, before <+: actions → (run before empty).IsAhead partition) ↔
      StaysWithin actions partition := by
  constructor
  · rintro hahead ⟨before, action, after, rfl, hover⟩
    have hnext := hahead (before ++ [action]) ⟨after, by simp⟩
    rw [run_concat] at hnext
    exact hover.not_isAhead_step hnext
  · rintro hactions before ⟨after, rfl⟩
    exact isAhead_run fun hoccurs => hactions (hoccurs.append after)

/-- The number in the id of a stored entity is not ahead of the sequence. -/
theorem IsAhead.number_of_mem (h : store.IsAhead partition) {e : Entity} {n : Int64}
    (he : e ∈ store.shelf partition) (hid : e.key.id = some (.number n)) :
    n.toInt ≤ (store.sequence partition).toInt := by
  obtain ⟨ids, hget⟩ := mem_shelf.1 he
  exact Int64.le_iff_toInt_le.1 (h.number hget hid)

/-- Nothing is kept under a number that is ahead of the sequence. -/
theorem IsAhead.get?_eq_none {ns : Option String} {kind : String} (h : store.IsAhead (ns, kind))
    (hfiled : store.IsFiled) {n : Int64} (hn : (store.sequence (ns, kind)).toInt < n.toInt) :
    store.get? ⟨ns, [], ⟨kind, some (.number n)⟩⟩ = none := by
  rw [get?, Key.address?_root, Option.bind_some]
  cases hget : store.entities.get? ((ns, kind), [.number n]) with
  | none => rfl
  | some e =>
    have hid : e.key.id = some (.number n) := Key.id_eq_getLast? (hfiled.address hget)
    have hle := Int64.le_iff_toInt_le.1 (h.number hget hid)
    omega

/-! ## Being there -/

/-- An action sets one sequence at most. -/
theorem sequences_step (store : MemoryStore) (action : Action) :
    (store.step action).sequences = store.sequences ∨
      ∃ partition n, (store.step action).sequences = store.sequences.insert partition n := by
  have hadvance : ∀ key, (store.step action).sequences = store.advance key →
      (store.step action).sequences = store.sequences ∨
        ∃ partition n, (store.step action).sequences = store.sequences.insert partition n := by
    intro key hset
    rcases advance_cases store key with ⟨-, hsame⟩ | ⟨n, -, hinsert⟩
    · exact .inl (hset.trans hsame)
    · exact .inr ⟨_, _, hset.trans hinsert⟩
  cases action with
  | allocate key =>
    rcases allocate_cases key store with ⟨h, -⟩ | ⟨h, -⟩ | ⟨h, -⟩
    · exact .inl (by rw [step, h])
    · exact .inl (by rw [step, h])
    · exact .inr ⟨_, _, by rw [step, h]⟩
  | insert e =>
    rcases insert_cases e store with ⟨h, -⟩ | ⟨h, -⟩ | ⟨address, -, -, ⟨old, -, h⟩ | ⟨-, h⟩⟩
    · exact .inl (by rw [step, h])
    · exact .inl (by rw [step, h])
    · exact hadvance e.key (by rw [step, h])
    · exact hadvance e.key (by rw [step, h])
  | query | setUnavailable => exact .inl rfl

/-- A sequence that is there stays. -/
theorem sequences_isSome_step (h : (store.sequences.get? partition).isSome = true)
    (action : Action) : ((store.step action).sequences.get? partition).isSome = true := by
  rcases sequences_step store action with hsame | ⟨other, n, hinsert⟩
  · rw [hsame]
    exact h
  · rw [hinsert, OrderedMap.get?_insert]
    split
    · rfl
    · exact h

/-- Every partition with an entity under a number has a sequence, even if the number is not
positive. -/
def HasSequences (store : MemoryStore) : Prop :=
  ∀ {partition ids e n}, store.entities.get? (partition, ids) = some e →
    e.key.id = some (.number n) → (store.sequences.get? partition).isSome = true

theorem hasSequences_empty : HasSequences empty := fun h _ => nomatch h

theorem HasSequences.step (h : store.HasSequences) (action : Action) :
    (store.step action).HasSequences := by
  intro partition ids e n he hid
  rcases entities_step store action with hsame | ⟨new, place, rfl, haddress, -, hinsert, hset⟩
  · rw [hsame] at he
    exact sequences_isSome_step (h he hid) action
  · rw [hinsert, OrderedMap.get?_insert] at he
    split at he
    · next heq =>
      cases he
      cases heq
      have hpartition : partition = e.key.partition := Key.address?_fst haddress
      rcases advance_cases store e.key with ⟨hnone, -⟩ | ⟨m, -, hinto⟩
      · exact absurd hid (hnone n)
      · rw [hset, hinto, OrderedMap.get?_insert, if_pos hpartition]
        rfl
    · exact sequences_isSome_step (h he hid) _

theorem HasSequences.run (h : store.HasSequences) (actions : List Action) :
    (run actions store).HasSequences := by
  induction actions generalizing store with
  | nil => exact h
  | cons action actions ih => exact ih (h.step action)

theorem Reachable.hasSequences (h : store.Reachable) : store.HasSequences := by
  obtain ⟨actions, rfl⟩ := h
  exact hasSequences_empty.run actions

end EntityQuery.MemoryStore
