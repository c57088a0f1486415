import EntityQuery.Proofs.Store.Addressed
import EntityQuery.Proofs.Store.Sequences
import Mathlib.Data.List.Pairwise
import Mathlib.Data.List.Perm.Basic

/-!
# Insertions in any order

Entities with different addresses do not get into each other's way.

* Answers.  `insert_answer_after`: what a store answers to an insertion does not depend on an
  insertion under another address.
* Stores.  `get?_advance` and `entities_get?_insert` say what an insertion changes, and
  `insert_comm` that two insertions change the same in either order.
* The result.  `insertAll_perm`, by induction on the list for the answers and on the
  permutation for the store.
-/

namespace EntityQuery.MemoryStore

/-- Inserts entities in order: the answers, and the store after all of them. -/
def insertAll : List Entity → MemoryStore → List (Except StoreError Key) × MemoryStore
  | [], store => ([], store)
  | e :: entities, store =>
    let (answer, store) := store.insert e
    let (answers, store) := insertAll entities store
    (answer :: answers, store)

/-- Whether two entities are not of one address.  An entity of an incomplete key has none. -/
def Apart (e other : Entity) : Prop :=
  e.key.address? = none ∨ e.key.address? ≠ other.key.address?

instance (e other : Entity) : Decidable (Apart e other) := inferInstanceAs (Decidable (_ ∨ _))

theorem Apart.symm {e other : Entity} (h : Apart e other) : Apart other e := by
  by_cases hother : other.key.address? = none
  · exact .inl hother
  · refine .inr fun heq => ?_
    obtain hnone | hne := h
    · exact hother (heq.trans hnone)
    · exact hne heq.symm

instance : Std.Symm Apart := ⟨fun _ _ => Apart.symm⟩

variable {store : MemoryStore} {e other : Entity}

/-! ## Answers -/

theorem isUnavailable_insert (store : MemoryStore) (e : Entity) :
    (store.insert e).2.isUnavailable = store.isUnavailable := by
  rcases insert_cases e store with ⟨h, -⟩ | ⟨h, -⟩ | ⟨_, -, -, ⟨_, -, h⟩ | ⟨-, h⟩⟩ <;> rw [h]

/-- A store that does not answer stays as it is. -/
theorem insert_of_isUnavailable (h : store.isUnavailable = true) (e : Entity) :
    store.insert e = (.error .unavailable, store) := by
  rw [insert, if_pos h]

/-- What an insertion makes of the entities: the first one under an address stays. -/
theorem entities_get?_insert (hup : store.isUnavailable = false) (e : Entity)
    (address : Key.Address) :
    (store.insert e).2.entities.get? address =
      if e.key.address? = some address then (store.entities.get? address).or (some e)
      else store.entities.get? address := by
  rcases insert_cases e store with
    ⟨-, hdown⟩ | ⟨h, -, hnone⟩ | ⟨place, hplace, -, ⟨old, hold, h⟩ | ⟨hnew, h⟩⟩
  · rw [hup] at hdown
    cases hdown
  · rw [h, hnone, if_neg nofun]
  · rw [h, hplace]
    split
    · next heq =>
      cases heq
      rw [hold]
      rfl
    · rfl
  · rw [h, hplace, OrderedMap.get?_insert]
    by_cases heq : address = place
    · rw [if_pos heq, if_pos (by rw [heq]), heq, hnew]
      rfl
    · rw [if_neg heq, if_neg fun hsome => heq (Option.some.inj hsome).symm]

/-- An entity of an incomplete key changes nothing. -/
theorem insert_of_incomplete (hup : store.isUnavailable = false) (h : e.key.address? = none) :
    store.insert e = (.error (.incompleteKey e.key.text), store) := by
  rcases insert_cases e store with ⟨-, hdown⟩ | ⟨heq, -⟩ | ⟨address, haddress, -⟩
  · rw [hup] at hdown
    cases hdown
  · exact heq
  · cases haddress.symm.trans h

/-- An insertion under another address does not change the answer. -/
theorem insert_answer_after (h : Apart e other) (store : MemoryStore) :
    ((store.insert e).2.insert other).1 = (store.insert other).1 := by
  by_cases hdown : store.isUnavailable = true
  · rw [insert_of_isUnavailable hdown e]
  have hup : store.isUnavailable = false := Bool.eq_false_iff.2 hdown
  have hup' : (store.insert e).2.isUnavailable = false := by rw [isUnavailable_insert, hup]
  cases haddress : other.key.address? with
  | none => rw [insert_of_incomplete hup haddress, insert_of_incomplete hup' haddress]
  | some address =>
    have hcomplete : other.key.address?.isSome = true := by rw [haddress]; rfl
    have hget : (store.insert e).2.get? other.key = store.get? other.key := by
      rw [get?, get?, haddress, Option.bind_some, Option.bind_some, entities_get?_insert hup,
        if_neg]
      intro heq
      obtain hnone | hne := h
      · cases hnone.symm.trans heq
      · exact hne (heq.trans haddress.symm)
    rw [insert_answer hup hcomplete, insert_answer hup' hcomplete, hget]

/-! ## Stores -/

/-- A key without a number advances no sequence. -/
theorem advance_of_unnumbered {key : Key} (h : ∀ n, key.id ≠ some (.number n))
    (store : MemoryStore) : store.advance key = store.sequences := by
  rcases advance_cases store key with ⟨-, hsame⟩ | ⟨n, hn, -⟩
  · exact hsame
  · exact absurd hn (h n)

theorem advance_congr {third : MemoryStore} (h : third.sequences = store.sequences) (key : Key) :
    third.advance key = store.advance key := by
  unfold advance
  rw [h]
  split
  · rw [sequence_congr h]
  · rfl

/-- A key with a number advances the sequence of its partition. -/
theorem get?_advance_of_number {key : Key} {n : Int64} (h : key.id = some (.number n))
    (store : MemoryStore) (partition : Key.Partition) :
    (store.advance key).get? partition =
      if partition = key.partition then some (max (store.sequence partition) n)
      else store.sequences.get? partition := by
  rw [advance, h]
  simp only [OrderedMap.get?_insert]
  by_cases heq : partition = key.partition
  · rw [if_pos heq, if_pos heq, heq]
  · rw [if_neg heq, if_neg heq]

theorem max_right_comm (last m n : Int64) : max (max last m) n = max (max last n) m := by
  rw [← Int64.toInt_inj, toInt_max, toInt_max, toInt_max, toInt_max]
  omega

/-- Two keys advance the sequences in either order to the same: what counts is the greatest
number of a partition. -/
theorem advance_comm {first second : MemoryStore} {key key' : Key}
    (hfirst : first.sequences = store.advance key)
    (hsecond : second.sequences = store.advance key') :
    first.advance key' = second.advance key := by
  rcases advance_cases store key with ⟨hnone, hsame⟩ | ⟨n, hn, -⟩
  · rw [advance_congr (hfirst.trans hsame), ← hsecond, advance_of_unnumbered hnone]
  rcases advance_cases store key' with ⟨hnone, hsame⟩ | ⟨n', hn', -⟩
  · rw [advance_congr (hsecond.trans hsame), ← hfirst, advance_of_unnumbered hnone]
  apply OrderedMap.ext_get?
  intro partition
  rw [get?_advance_of_number hn', get?_advance_of_number hn, hfirst, hsecond,
    get?_advance_of_number hn, get?_advance_of_number hn', sequence_advance hfirst,
    sequence_advance hsecond, reach_of_number hn, reach_of_number hn']
  by_cases hkey : partition = key.partition
  · by_cases hkey' : partition = key'.partition
    · rw [if_pos hkey, if_pos hkey', if_pos hkey, if_pos hkey', max_right_comm]
    · rw [if_neg hkey', if_pos hkey, if_pos hkey, if_neg hkey']
  · by_cases hkey' : partition = key'.partition
    · rw [if_pos hkey', if_neg hkey, if_neg hkey, if_pos hkey']
    · rw [if_neg hkey', if_neg hkey, if_neg hkey, if_neg hkey']

theorem sequences_insert (hup : store.isUnavailable = false) (e : Entity) :
    (store.insert e).2.sequences =
      if e.key.address? = none then store.sequences else store.advance e.key := by
  rcases insert_cases e store with
    ⟨-, hdown⟩ | ⟨h, -, hnone⟩ | ⟨place, hplace, -, ⟨old, hold, h⟩ | ⟨hnew, h⟩⟩
  · rw [hup] at hdown
    cases hdown
  · rw [h, if_pos hnone]
  · rw [h, if_neg (by simp [hplace])]
  · rw [h, if_neg (by simp [hplace])]

/-- The number of insertions counts the answers without an error. -/
theorem writes_insert (store : MemoryStore) (e : Entity) :
    (store.insert e).2.writes = store.writes + if (store.insert e).1.isOk then 1 else 0 := by
  rcases insert_cases e store with ⟨h, -⟩ | ⟨h, -⟩ | ⟨_, -, -, ⟨_, -, h⟩ | ⟨-, h⟩⟩ <;> rw [h] <;>
    rfl

/-- An insertion keeps all else. -/
theorem frame_insert (store : MemoryStore) (e : Entity) :
    (store.insert e).2.executed = store.executed ∧
      (store.insert e).2.allocations = store.allocations := by
  rcases insert_cases e store with ⟨h, -⟩ | ⟨h, -⟩ | ⟨_, -, -, ⟨_, -, h⟩ | ⟨-, h⟩⟩ <;>
    rw [h] <;> exact ⟨rfl, rfl⟩

theorem eq_of_parts {first second : MemoryStore} (hentities : first.entities = second.entities)
    (hsequences : first.sequences = second.sequences) (hwrites : first.writes = second.writes)
    (hexecuted : first.executed = second.executed)
    (hallocations : first.allocations = second.allocations)
    (hup : first.isUnavailable = second.isUnavailable) : first = second := by
  cases first
  cases second
  simp_all

/-- Two insertions under different addresses come to the same in either order. -/
theorem insert_comm (h : Apart e other) (store : MemoryStore) :
    ((store.insert e).2.insert other).2 = ((store.insert other).2.insert e).2 := by
  by_cases hdown : store.isUnavailable = true
  · rw [insert_of_isUnavailable hdown e, insert_of_isUnavailable hdown other,
      insert_of_isUnavailable hdown e]
  have hup : store.isUnavailable = false := Bool.eq_false_iff.2 hdown
  have hfirst : (store.insert e).2.isUnavailable = false := by rw [isUnavailable_insert, hup]
  have hsecond : (store.insert other).2.isUnavailable = false := by rw [isUnavailable_insert, hup]
  apply eq_of_parts
  · apply OrderedMap.ext_get?
    intro address
    rw [entities_get?_insert hfirst, entities_get?_insert hsecond, entities_get?_insert hup,
      entities_get?_insert hup]
    by_cases he : e.key.address? = some address
    · have hother : other.key.address? ≠ some address := by
        intro heq
        obtain hnone | hne := h
        · cases hnone.symm.trans he
        · exact hne (he.trans heq.symm)
      rw [if_neg hother, if_neg hother]
    · rw [if_neg he, if_neg he]
  · rw [sequences_insert hfirst, sequences_insert hsecond]
    by_cases he : e.key.address? = none
    · rw [insert_of_incomplete hup he, if_pos he, sequences_insert hup]
    · by_cases hother : other.key.address? = none
      · rw [insert_of_incomplete hup hother, if_pos hother, sequences_insert hup]
      · rw [if_neg hother, if_neg he]
        exact advance_comm ((sequences_insert hup e).trans (if_neg he))
          ((sequences_insert hup other).trans (if_neg hother))
  · rw [writes_insert (store.insert e).2, writes_insert store, writes_insert (store.insert other).2,
      writes_insert store, insert_answer_after h, insert_answer_after h.symm, Nat.add_right_comm]
  · rw [(frame_insert _ other).1, (frame_insert store e).1, (frame_insert _ e).1,
      (frame_insert store other).1]
  · rw [(frame_insert _ other).2, (frame_insert store e).2, (frame_insert _ e).2,
      (frame_insert store other).2]
  · rw [isUnavailable_insert, isUnavailable_insert, isUnavailable_insert, isUnavailable_insert]

/-! ## Lists -/

/-- Each entity is answered as it would be alone. -/
theorem insertAll_answers {entities : List Entity} (h : entities.Pairwise Apart)
    (store : MemoryStore) :
    (insertAll entities store).1 = entities.map fun e => (store.insert e).1 := by
  induction entities generalizing store with
  | nil => rfl
  | cons e entities ih =>
    obtain ⟨hfirst, hothers⟩ := List.pairwise_cons.1 h
    show (store.insert e).1 :: (insertAll entities (store.insert e).2).1 = _
    rw [ih hothers, List.map_cons]
    refine congrArg _ (List.map_congr_left fun other hmem => ?_)
    exact insert_answer_after (hfirst other hmem) store

theorem insertAll_store (entities : List Entity) (store : MemoryStore) :
    (insertAll entities store).2 = entities.foldl (fun store e => (store.insert e).2) store := by
  induction entities generalizing store with
  | nil => rfl
  | cons e entities ih => exact ih (store.insert e).2

/-- Entities of different addresses are answered the same in any order, each as if it were the
only one, and the store after them is the same in every part. -/
theorem insertAll_perm (store : MemoryStore) {entities others : List Entity}
    (hapart : entities.Pairwise Apart) (hperm : entities.Perm others) :
    (insertAll entities store).1 = entities.map (fun e => (store.insert e).1) ∧
      (insertAll others store).1 = others.map (fun e => (store.insert e).1) ∧
      (insertAll entities store).2 = (insertAll others store).2 := by
  have hothers : others.Pairwise Apart := (hperm.pairwise_iff Apart.symm).1 hapart
  refine ⟨insertAll_answers hapart store, insertAll_answers hothers store, ?_⟩
  rw [insertAll_store, insertAll_store]
  refine hperm.foldl_eq' (fun e he other hother store => ?_) store
  -- an entity commutes with itself, so two places of the list may hold the same one
  by_cases hsame : e = other
  · rw [hsame]
  · exact insert_comm (hapart.forall he hother hsame) store

/-- A store that keeps the third widget. -/
def withThird : MemoryStore := run [.insert ⟨.root "Widget" (.number 3), [], []⟩] empty

/-- The third widget once more, two entities without ids and two widgets that are new. -/
def mixedEntities : List Entity :=
  [⟨.root "Widget" (.number 3), [], []⟩, ⟨.incomplete "Gadget", [], []⟩,
    ⟨.root "Widget" (.name "a"), [], []⟩, ⟨.root "Widget" (.number 7), [], []⟩,
    ⟨.incomplete "Gadget", [], []⟩]

theorem insertAll_perm_mixed :
    mixedEntities.Pairwise Apart ∧
      (insertAll mixedEntities withThird).1 =
        [.error (.alreadyExists "Widget:3"), .error (.incompleteKey "Gadget:?"),
          .ok (.root "Widget" (.name "a")), .ok (.root "Widget" (.number 7)),
          .error (.incompleteKey "Gadget:?")] ∧
      (insertAll mixedEntities withThird).2 = (insertAll mixedEntities.reverse withThird).2 := by
  have hapart : mixedEntities.Pairwise Apart := by decide
  obtain ⟨hanswers, -, hstore⟩ :=
    insertAll_perm withThird hapart (List.reverse_perm mixedEntities).symm
  exact ⟨hapart, hanswers.trans rfl, hstore⟩

end EntityQuery.MemoryStore
