import EntityQuery.Proofs.Store.Sequences

/-!
# Requests that are refused

A request that a store in memory answers with a failure leaves its entities and its counters as
they were, and a query changes nothing but the list of those received.

Only an insertion under a key that is taken needs an argument: the sequence of the partition is
moved before the entity there is found.  While the sequence is ahead of the numbers that are kept,
it is as far already, since the entity that is kept has the same number.  An overflow moves it
behind them, and then a refused insertion moves it up again.

* Keys that are taken.  `IsBehind` is that a sequence has not come to the number in a key, and
  `advance_eq_sequences_iff` that an insertion under a taken key moves no other sequence.
* The result.  `Refuses` is what a refused insertion does, and
  `refused_requests_move_sequences_behind` that it is all that any refused request does.
-/

namespace EntityQuery.MemoryStore

/-! ## Keys that are taken -/

variable {store : MemoryStore}

/-- The key has a number that the sequence of its partition has not come to. -/
def IsBehind (store : MemoryStore) (key : Key) : Prop :=
  ∃ n, key.id = some (.number n) ∧ store.sequence key.partition < n

theorem get?_sequences {partition : Key.Partition}
    (h : (store.sequences.get? partition).isSome = true) :
    store.sequences.get? partition = some (store.sequence partition) := by
  obtain ⟨last, hlast⟩ := Option.isSome_iff_exists.1 h
  rw [sequence, hlast]
  rfl

/-- Where there is a sequence, an insertion moves it if it has not come to the number in the key. -/
theorem advance_eq_sequences_iff {key : Key}
    (hsequence : ∀ n, key.id = some (.number n) →
      (store.sequences.get? key.partition).isSome = true) :
    store.advance key = store.sequences ↔ ¬store.IsBehind key := by
  constructor
  · rintro hsame ⟨n, hid, hlt⟩
    have hstays := sequence_advance hsame.symm key.partition
    rw [if_pos rfl, reach_of_number hid, ← Int64.toInt_inj, toInt_max] at hstays
    rw [Int64.lt_iff_toInt_lt] at hlt
    omega
  · intro hbehind
    rcases advance_cases store key with ⟨-, hsame⟩ | ⟨n, hid, hset⟩
    · exact hsame
    · rw [hset, max_eq_left_of_not_lt fun hlt => hbehind ⟨n, hid, hlt⟩]
      exact OrderedMap.insert_of_get? (get?_sequences (hsequence n hid))

/-- The entity that is kept where a key would go has the number of the key. -/
theorem IsFiled.id_eq {key : Key} {address : Key.Address} {kept : Entity} (h : store.IsFiled)
    (haddress : key.address? = some address) (hkept : store.entities.get? address = some kept) :
    kept.key.id = key.id := by
  rw [Key.id_eq_getLast? (h.address hkept), Key.id_eq_getLast? haddress]

/-! ## The result -/

/-- What an insertion that is refused does to a store. -/
structure Refuses (store : MemoryStore) (e : Entity) (failure : StoreError) : Prop where
  /-- Nothing changes but the sequences. -/
  frame : (store.insert e).2 = { store with sequences := (store.insert e).2.sequences }
  /-- The sequences of other partitions do not change, and no partition gets its first one. -/
  others : ∀ partition, partition ≠ e.key.partition →
    (store.insert e).2.sequences.get? partition = store.sequences.get? partition
  isSome_eq : ∀ partition, ((store.insert e).2.sequences.get? partition).isSome =
    (store.sequences.get? partition).isSome
  /-- The sequence of the partition changes if the key is taken and has a number that the sequence
  has not come to, and only then. -/
  unchanged_iff : (store.insert e).2 = store ↔
    ¬(failure = .alreadyExists e.key.text ∧ store.IsBehind e.key)
  /-- That takes an overflow before it. -/
  within : store.ReachableWithin e.key.partition → (store.insert e).2 = store

theorem refuses_of_same {e : Entity} {failure : StoreError} (hstay : (store.insert e).2 = store)
    (hfailure : failure ≠ .alreadyExists e.key.text) : store.Refuses e failure where
  frame := by rw [hstay]
  others partition _ := by rw [hstay]
  isSome_eq partition := by rw [hstay]
  unchanged_iff := iff_of_true hstay fun h => hfailure h.1
  within _ := hstay

/-- An insertion under a key that is taken. -/
theorem refuses_of_kept {e kept : Entity} {address : Key.Address} (hreach : store.Reachable)
    (haddress : e.key.address? = some address) (hkept : store.entities.get? address = some kept)
    (hmoved : (store.insert e).2 = { store with sequences := store.advance e.key }) :
    store.Refuses e (.alreadyExists e.key.text) := by
  have hplace : store.entities.get? (e.key.partition, address.2) = some kept := by
    rw [← Key.address?_fst haddress]
    exact hkept
  have hid := hreach.isFiled.id_eq haddress hkept
  have hsequence : ∀ n, e.key.id = some (.number n) →
      (store.sequences.get? e.key.partition).isSome = true :=
    fun n hn => hreach.hasSequences hplace (hid.trans hn)
  have hunchanged : (store.insert e).2 = store ↔ ¬store.IsBehind e.key := by
    rw [← advance_eq_sequences_iff hsequence, hmoved]
    exact ⟨congrArg MemoryStore.sequences, fun hsame => by rw [hsame]⟩
  refine ⟨?_, ?_, ?_, ?_, ?_⟩
  · rw [hmoved]
  · intro partition hne
    rw [hmoved]
    exact get?_advance_of_ne hne store
  · intro partition
    rw [hmoved]
    rcases advance_cases store e.key with ⟨-, hsame⟩ | ⟨n, hn, hset⟩
    · rw [hsame]
    · rw [hset, OrderedMap.get?_insert]
      split
      · next heq => rw [heq, hsequence n hn]; rfl
      · rfl
  · rw [hunchanged, and_iff_right rfl]
  · intro hwithin
    rw [hunchanged]
    rintro ⟨n, hn, hlt⟩
    have hle := Int64.le_iff_toInt_le.1 (hwithin.isAhead.number hplace (hid.trans hn))
    rw [Int64.lt_iff_toInt_lt] at hlt
    omega

/-- A request for an id that fails leaves the store as it was, whatever the failure.  An insertion
that fails does so too, unless its key is taken and the sequence of the partition is behind the
number in the key; then the sequence is moved.  A query, answered or not, is kept at the end of
those received and changes nothing else. -/
theorem refused_requests_move_sequences_behind (h : store.Reachable) :
    (∀ key failure, (store.allocate key).1 = .error failure → (store.allocate key).2 = store) ∧
    (∀ e failure, (store.insert e).1 = .error failure → store.Refuses e failure) ∧
    ∀ query, (store.runQuery query).2 = { store with executed := store.executed ++ [query] } := by
  refine ⟨fun key failure hfail => ?_, fun e failure hfail => ?_, fun query => rfl⟩
  · rcases allocate_cases key store with ⟨hstay, -⟩ | ⟨hok, -⟩ | ⟨hok, -⟩
    · rw [hstay]
    · rw [hok] at hfail
      cases hfail
    · rw [hok] at hfail
      cases hfail
  · rcases insert_cases e store with
      ⟨hstay, -⟩ | ⟨hstay, -⟩ | ⟨address, haddress, -, ⟨kept, hkept, hmoved⟩ | ⟨-, hok⟩⟩
    · rw [hstay] at hfail
      cases hfail
      exact refuses_of_same (by rw [hstay]) (by rintro ⟨⟩)
    · rw [hstay] at hfail
      cases hfail
      exact refuses_of_same (by rw [hstay]) (by rintro ⟨⟩)
    · rw [hmoved] at hfail
      cases hfail
      exact refuses_of_kept h haddress hkept (by rw [hmoved])
    · rw [hok] at hfail
      cases hfail

/-- An entity under the greatest number. -/
def greatestWidget : Entity := ⟨.root "Widget" (.number 9223372036854775807), [], []⟩

/-- The store that keeps it, after one more number was given out. -/
def overflowed : MemoryStore :=
  run [.insert greatestWidget, .allocate (.incomplete "Widget")] empty

/-- A second insertion under the greatest number is refused, and moves the sequence from the least
number to the greatest. -/
theorem refused_requests_move_sequences_behind_greatest :
    overflowed.Reachable ∧ overflowed.sequence (none, "Widget") = Int64.minValue ∧
      (overflowed.insert greatestWidget).1 =
        .error (.alreadyExists "Widget:9223372036854775807") ∧
      (overflowed.insert greatestWidget).2 ≠ overflowed ∧
      (overflowed.insert greatestWidget).2.sequence (none, "Widget") = Int64.maxValue := by
  have hreach : overflowed.Reachable := ⟨_, rfl⟩
  have hfail : (overflowed.insert greatestWidget).1 =
      .error (.alreadyExists "Widget:9223372036854775807") := rfl
  have hbehind : overflowed.IsBehind greatestWidget.key := ⟨9223372036854775807, rfl, by decide⟩
  have hrefuses := (refused_requests_move_sequences_behind hreach).2.1 _ _ hfail
  exact ⟨hreach, rfl, hfail, fun hsame => hrefuses.unchanged_iff.1 hsame ⟨rfl, hbehind⟩, rfl⟩

end EntityQuery.MemoryStore
