import EntityQuery.Proofs.Store.Sequences

/-!
# Fresh numbers

The numbers that a store in memory gives out are ahead of all that it knows.

* Numbers in a run.  `Used` is that a run is given a number or tries to insert under it, and
  `UsesSmall` that all such numbers are less than the greatest of 64 bits.
* The invariant.  `IsTracked` ties the sequence of every partition to the numbers used in
  it: none is ahead of the sequence, and the sequence is one of them.  `IsTracked.allocate`
  and `IsTracked.insert` keep it, and `isTracked_run` is by induction on the run.  It follows that
  a run of small numbers does not overflow (`UsesSmall.staysWithin`).
* The next number.  `allocate_fresh` puts a new number ahead of all of them.
-/

namespace EntityQuery.MemoryStore

/-! ## Numbers in a run -/

/-- A run from the empty store has given the number out in the partition, or has tried to insert
under it. -/
def Used (actions : List Action) (partition : Key.Partition) (n : Int64) : Prop :=
  Occurs (fun store action => Gives store action partition n ∨ Tries store action partition n)
    actions

/-- Every number that the run uses is less than the greatest integer of 64 bits. -/
def UsesSmall (actions : List Action) : Prop :=
  ∀ partition n, Used actions partition n → n.toInt < 9223372036854775807

theorem UsesSmall.of_concat {actions : List Action} {action : Action}
    (h : UsesSmall (actions ++ [action])) : UsesSmall actions :=
  fun partition n hused => h partition n (occurs_concat.2 (.inl hused))

theorem usesSmall_nil : UsesSmall [] :=
  fun _ _ h => absurd h (not_occurs_nil _)

/-- Giving out the next number of a sequence that is small enough. -/
theorem UsesSmall.allocate {actions : List Action} (h : UsesSmall actions) (key : Key)
    (hlt : ((run actions empty).sequence key.partition).toInt + 1 < 9223372036854775807) :
    UsesSmall (actions ++ [.allocate key]) := by
  intro partition n hused
  rcases occurs_concat.1 hused with hbefore | hgives | htries
  · exact h partition n hbefore
  · obtain ⟨other, answer, heq, hkey, -⟩ := id hgives
    cases heq
    obtain ⟨-, rfl⟩ := (gives_allocate hgives.isUnavailable_eq hkey).1 hgives
    rw [toInt_succ (by omega)]
    exact hlt
  · exact absurd htries not_tries_allocate

/-- Trying to insert under a number that is small enough. -/
theorem UsesSmall.insert {actions : List Action} (h : UsesSmall actions) (e : Entity)
    (hlt : (reach 0 e.key).toInt < 9223372036854775807) :
    UsesSmall (actions ++ [.insert e]) := by
  intro partition n hused
  rcases occurs_concat.1 hused with hbefore | hgives | ⟨other, heq, -, -, -, hid⟩
  · exact h partition n hbefore
  · exact absurd hgives not_gives_insert
  · cases heq
    rw [reach_of_number hid, toInt_max] at hlt
    omega

/-! ## The invariant -/

/-- The sequence of every partition is the greatest number that a run uses in it. -/
structure IsTracked (actions : List Action) : Prop where
  bounded : ∀ {partition n}, Used actions partition n →
    n.toInt ≤ ((run actions empty).sequence partition).toInt
  reached : ∀ partition, (run actions empty).sequence partition = 0 ∨
    Used actions partition ((run actions empty).sequence partition)

/-- While the numbers are small, so are the sequences. -/
theorem IsTracked.sequence_lt {actions : List Action} (h : IsTracked actions)
    (hsmall : UsesSmall actions) (partition : Key.Partition) :
    ((run actions empty).sequence partition).toInt < 9223372036854775807 := by
  rcases h.reached partition with hzero | hused
  · rw [hzero]
    decide
  · exact hsmall partition _ hused

theorem reached_concat {actions : List Action} {partition : Key.Partition} {last : Int64}
    (h : last = 0 ∨ Used actions partition last) (action : Action) :
    last = 0 ∨ Used (actions ++ [action]) partition last :=
  h.imp_right fun hused => occurs_concat.2 (.inl hused)

/-- A number used in a longer run is bounded if it was before or if the last action keeps to the
bound. -/
theorem IsTracked.bounded_concat {actions : List Action} {action : Action} (h : IsTracked actions)
    (hsmall : UsesSmall actions)
    (hlast : ∀ partition n, Gives (run actions empty) action partition n ∨
      Tries (run actions empty) action partition n →
        n.toInt ≤ (((run actions empty).step action).sequence partition).toInt)
    {partition : Key.Partition} {n : Int64} (hused : Used (actions ++ [action]) partition n) :
    n.toInt ≤ ((run (actions ++ [action]) empty).sequence partition).toInt := by
  rw [run_concat]
  rcases occurs_concat.1 hused with hbefore | hnow
  · have hwithin := not_overflows_of_lt (h.sequence_lt hsmall partition) action
    exact Int.le_trans (h.bounded hbefore) (sequence_le_step hwithin)
  · exact hlast partition n hnow

theorem IsTracked.same {actions : List Action} {action : Action} (h : IsTracked actions)
    (hsmall : UsesSmall actions)
    (hsame : ∀ partition, ((run actions empty).step action).sequence partition =
      (run actions empty).sequence partition)
    (hnone : ∀ partition n, ¬ Gives (run actions empty) action partition n ∧
      ¬ Tries (run actions empty) action partition n) : IsTracked (actions ++ [action]) := by
  constructor
  · apply h.bounded_concat hsmall
    rintro partition n (hgives | htries)
    · exact absurd hgives (hnone partition n).1
    · exact absurd htries (hnone partition n).2
  · intro partition
    rw [run_concat, hsame]
    exact reached_concat (h.reached partition) action

/-- A number that is given out is the new sequence. -/
theorem IsTracked.allocate {actions : List Action} {key : Key} (h : IsTracked actions)
    (hsmall : UsesSmall actions) (hup : (run actions empty).isUnavailable = false)
    (hkey : key.isIncomplete = true)
    (hset : ∀ partition, ((run actions empty).step (.allocate key)).sequence partition =
      if partition = key.partition then (run actions empty).sequence key.partition + 1
      else (run actions empty).sequence partition) :
    IsTracked (actions ++ [.allocate key]) := by
  constructor
  · apply h.bounded_concat hsmall
    rintro partition n (hgives | htries)
    · exact Int.le_of_eq (congrArg Int64.toInt hgives.sequence_step.symm)
    · exact absurd htries not_tries_allocate
  · intro partition
    rw [run_concat, hset]
    by_cases hpartition : partition = key.partition
    · subst hpartition
      rw [if_pos rfl]
      exact .inr (occurs_concat.2 (.inr (.inl ((gives_allocate hup hkey).2 ⟨rfl, rfl⟩))))
    · rw [if_neg hpartition]
      exact reached_concat (h.reached partition) _

/-- A number that is ahead of the sequence becomes the new one when it is inserted under. -/
theorem IsTracked.insert {actions : List Action} {e : Entity} (h : IsTracked actions)
    (hsmall : UsesSmall actions) (hup : (run actions empty).isUnavailable = false)
    (hsome : e.key.address?.isSome = true)
    (hset : ∀ partition, ((run actions empty).step (.insert e)).sequence partition =
      if partition = e.key.partition then reach ((run actions empty).sequence partition) e.key
      else (run actions empty).sequence partition) :
    IsTracked (actions ++ [.insert e]) := by
  constructor
  · apply h.bounded_concat hsmall
    rintro partition n (hgives | ⟨other, heq, -, -, rfl, hid⟩)
    · exact absurd hgives not_gives_insert
    · cases heq
      rw [hset, if_pos rfl, reach_of_number hid, toInt_max]
      exact Int.le_max_right ..
  · intro partition
    rw [run_concat, hset]
    by_cases hpartition : partition = e.key.partition
    · subst hpartition
      rw [if_pos rfl]
      rcases reach_cases ((run actions empty).sequence e.key.partition) e.key with
        hstays | ⟨n, hid, hmoves⟩
      · rw [hstays]
        exact reached_concat (h.reached e.key.partition) _
      · rw [hmoves]
        exact .inr (occurs_concat.2 (.inr (.inr ⟨e, rfl, hup, hsome, rfl, hid⟩)))
    · rw [if_neg hpartition]
      exact reached_concat (h.reached partition) _

/-- The sequences follow the numbers of a run that uses small ones. -/
theorem isTracked_run {actions : List Action} (hsmall : UsesSmall actions) :
    IsTracked actions := by
  induction actions using List.reverseRecOn with
  | nil => exact ⟨fun h => absurd h (not_occurs_nil _), fun _ => .inl rfl⟩
  | append_singleton actions action ih =>
    have hbefore := hsmall.of_concat
    have htracked := ih hbefore
    rcases numbers_step (run actions empty) action with
      ⟨hsame, hnone⟩ | ⟨key, rfl, hup, hkey, hset⟩ | ⟨e, rfl, hup, hsome, hset⟩
    · exact htracked.same hbefore hsame hnone
    · exact htracked.allocate hbefore hup hkey hset
    · exact htracked.insert hbefore hup hsome hset

/-- No action overflows behind a run that uses small numbers. -/
theorem UsesSmall.not_overflows {actions : List Action} (h : UsesSmall actions) (action : Action)
    (partition : Key.Partition) : ¬(run actions empty).Overflows action partition :=
  not_overflows_of_lt ((isTracked_run h).sequence_lt h partition) action

/-- A run that uses small numbers stays within them. -/
theorem UsesSmall.staysWithin {actions : List Action} (h : UsesSmall actions)
    (partition : Key.Partition) : StaysWithin actions partition := by
  induction actions using List.reverseRecOn with
  | nil => exact not_occurs_nil _
  | append_singleton actions action ih =>
    intro hoccurs
    rcases occurs_concat.1 hoccurs with hbefore | hnow
    · exact ih h.of_concat hbefore
    · exact h.of_concat.not_overflows action partition hnow

/-! ## The next number -/

/-- The number that an incomplete key is given is ahead of every number used before it and of
every number that an entity of the partition is kept under. -/
theorem allocate_fresh {actions : List Action} (hsmall : UsesSmall actions) {key answer : Key}
    (hkey : key.isIncomplete = true)
    (hanswer : ((run actions empty).allocate key).1 = .ok answer) :
    ∃ n, answer = key.withId (.number n) ∧ 1 ≤ n.toInt ∧
      n.toInt = ((run actions empty).sequence key.partition).toInt + 1 ∧
      (∀ m, Used actions key.partition m → m.toInt < n.toInt) ∧
      ∀ e ∈ (run actions empty).shelf key.partition, ∀ m, e.key.id = some (.number m) →
        m.toInt < n.toInt := by
  have htracked := isTracked_run hsmall
  have hahead := isAhead_run (hsmall.staysWithin key.partition)
  have hn := toInt_succ (htracked.sequence_lt hsmall key.partition)
  have hnonneg : 0 ≤ ((run actions empty).sequence key.partition).toInt :=
    Int64.le_iff_toInt_le.1 hahead.nonneg
  rcases allocate_cases key (run actions empty) with ⟨h, -⟩ | ⟨-, -, hcomplete⟩ | ⟨h, -, -⟩
  · rw [h] at hanswer
    cases hanswer
  · rw [hkey] at hcomplete
    cases hcomplete
  · rw [h] at hanswer
    cases hanswer
    refine ⟨_, rfl, by omega, hn, ?_, ?_⟩
    · intro m hused
      have hle := htracked.bounded hused
      omega
    · intro e he m hid
      have hle := hahead.number_of_mem he hid
      omega

end EntityQuery.MemoryStore
