import EntityQuery.Proofs.Store.Fresh
import EntityQuery.Session.Insertion
import Mathlib.Data.List.Nodup

/-!
# Insertions at the same time

An insertion is two steps, and steps of other insertions and any other requests may come
between them.

* Workloads.  A `Workload` is what was asked of the store and how far each insertion is;
  `Workload.step` is one move of it.  `Session.insertGetId_eq_steps` ties its two steps to
  the insertion of a session.
* The invariant.  `IsFresh` says that the keys given out are all different, and that
  nothing is kept yet under those that are waiting.  `IsFresh.step` keeps it.
* The result.  `allocate_ahead_of_all` is about the numbers of any run, and about
  insertions in any order.
-/

namespace EntityQuery

open MemoryStore

/-- Insertions into one store, each at its own pace. -/
structure Workload where
  /-- All that was asked of the store, in order. -/
  history : List Action
  /-- The keys that were given to insertions of which the second step is still to come. -/
  waiting : List Key
  /-- The keys of the insertions that came to an end well. -/
  returned : List Key
  /-- The keys of the insertions of which the second step failed. -/
  failed : List Key

namespace Workload

/-- One thing that happens. -/
inductive Move where
  /-- An insertion asks for a key. -/
  | start (kind : String) (ns : Option String)
  /-- An insertion puts its entity under its key. -/
  | finish (key : Key) (properties : Properties) (excluded : List String)
  /-- The store is asked for anything else. -/
  | other (action : Action)

/-- The workload before anything happened. -/
def idle : Workload := ⟨[], [], [], []⟩

/-- The store that all the requests so far have led to. -/
def store (w : Workload) : MemoryStore := MemoryStore.run w.history .empty

/-- The keys that insertions were given. -/
def given (w : Workload) : List Key := w.waiting ++ (w.returned ++ w.failed)

/-- The workload after a move. -/
def step (w : Workload) : Move → Workload
  | .start kind ns =>
    let key := (Key.incomplete kind).withNamespace ns
    let history := w.history ++ [.allocate key]
    match (w.store.allocate key).1 with
    | .ok answer => { w with history, waiting := answer :: w.waiting }
    | .error _ => { w with history }
  | .finish key properties excluded =>
    if key ∈ w.waiting then
      let e := Entity.create key properties excluded
      let history := w.history ++ [.insert e]
      let waiting := w.waiting.erase key
      match (w.store.insert e).1 with
      | .ok _ => { w with history, waiting, returned := key :: w.returned }
      | .error _ => { w with history, waiting, failed := key :: w.failed }
    else w
  | .other action => { w with history := w.history ++ [action] }

/-- The workload after moves in order. -/
def run (moves : List Move) : Workload := moves.foldl step idle

theorem run_concat (moves : List Move) (move : Move) :
    run (moves ++ [move]) = (run moves).step move := by
  rw [run, List.foldl_append]
  rfl

/-- The move is no insertion of a caller's own under a number. -/
def Move.leavesNumbers : Move → Bool
  | .other (.insert e) =>
    match e.key.id with
    | some (.number _) => false
    | _ => true
  | _ => true

/-- A move asks the store for one thing, or for nothing. -/
theorem history_step (w : Workload) (move : Move) :
    (w.step move).history = w.history ∨
      ∃ action, (w.step move).history = w.history ++ [action] := by
  cases move with
  | start kind ns =>
    refine .inr ⟨.allocate ((Key.incomplete kind).withNamespace ns), ?_⟩
    simp only [step]
    split <;> rfl
  | finish key properties excluded =>
    simp only [step]
    split
    · refine .inr ⟨.insert (Entity.create key properties excluded), ?_⟩
      split <;> rfl
    · exact .inl rfl
  | other action => exact .inr ⟨action, rfl⟩

theorem usesSmall_of_step {w : Workload} {move : Move} (h : UsesSmall (w.step move).history) :
    UsesSmall w.history := by
  rcases history_step w move with hsame | ⟨action, hmore⟩
  · rwa [hsame] at h
  · rw [hmore] at h
    exact h.of_concat

/-! ## The invariant -/

/-- The key is one that an insertion is given: of one element, with a number that the sequence of
the partition has come to. -/
def IsGiven (store : MemoryStore) (key : Key) : Prop :=
  ∃ ns kind n, key = ⟨ns, [], ⟨kind, some (.number n)⟩⟩ ∧
    n.toInt ≤ (store.sequence (ns, kind)).toInt

/-- All keys that were given out are different, and nothing is kept under those that wait. -/
structure IsFresh (w : Workload) : Prop where
  isGiven : ∀ key ∈ w.given, IsGiven w.store key
  distinct : w.given.Nodup
  absent : ∀ key ∈ w.waiting, w.store.get? key = none

theorem isFresh_idle : IsFresh idle :=
  ⟨fun _ h => (nomatch h), List.nodup_nil, fun _ h => (nomatch h)⟩

theorem IsGiven.mono {store : MemoryStore} {key : Key} (h : IsGiven store key) {action : Action}
    (hwithin : ∀ partition, ¬store.Overflows action partition) :
    IsGiven (store.step action) key := by
  obtain ⟨ns, kind, n, rfl, hn⟩ := h
  exact ⟨ns, kind, n, rfl, Int.le_trans hn (sequence_le_step (hwithin (ns, kind)))⟩

/-- Two keys that were given out are the same if they have the same address. -/
theorem IsGiven.eq_of_address? {store : MemoryStore} {key other : Key} (hkey : IsGiven store key)
    (hother : IsGiven store other) (h : key.address? = other.address?) : key = other := by
  obtain ⟨ns, kind, n, rfl, -⟩ := hkey
  obtain ⟨ns', kind', n', rfl, -⟩ := hother
  rw [Key.address?_root, Key.address?_root] at h
  cases h
  rfl

theorem IsGiven.key_eq {store : MemoryStore} {key other : Key} (hkey : IsGiven store key)
    (hother : IsGiven store other)
    (h : (key.partition, key.id) = (other.partition, other.id)) : key = other := by
  obtain ⟨ns, kind, n, rfl, -⟩ := hkey
  obtain ⟨ns', kind', n', rfl, -⟩ := hother
  cases h
  rfl

theorem store_concat {w w' : Workload} {action : Action}
    (h : w'.history = w.history ++ [action]) : w'.store = w.store.step action := by
  rw [store, h, MemoryStore.run_concat]
  rfl

/-- A move that gives no key out keeps the invariant, if nothing is put under a key that goes on
waiting. -/
theorem IsFresh.of_perm {w w' : Workload} {action : Action} (h : w.IsFresh)
    (hsmall : UsesSmall w.history) (hhistory : w'.history = w.history ++ [action])
    (hgiven : w'.given.Perm w.given)
    (hwaiting : ∀ key ∈ w'.waiting, key ∈ w.waiting ∧
      ∀ e, action = .insert e → e.key.address? ≠ key.address?) : w'.IsFresh := by
  have hstore := store_concat hhistory
  constructor
  · intro key hmem
    rw [hstore]
    exact (h.isGiven key (hgiven.mem_iff.1 hmem)).mono (hsmall.not_overflows action)
  · exact hgiven.nodup_iff.2 h.distinct
  · intro key hmem
    obtain ⟨hbefore, hne⟩ := hwaiting key hmem
    rw [hstore]
    exact get?_step_eq_none (h.absent key hbefore) action hne

theorem IsFresh.start {w : Workload} (h : w.IsFresh) (kind : String) (ns : Option String)
    (hsmall : UsesSmall w.history) : (w.step (.start kind ns)).IsFresh := by
  have hfiled : w.store.IsFiled := isFiled_empty.run w.history
  simp only [step]
  split
  · next answer hanswer =>
    obtain ⟨n, rfl, -, hn, -, -⟩ := allocate_fresh hsmall rfl hanswer
    have hstep : n.toInt = (w.store.sequence (ns, kind)).toInt + 1 := hn
    have hlast : (w.store.sequence (ns, kind)).toInt < n.toInt := by omega
    have hahead : w.store.IsAhead (ns, kind) := isAhead_run (hsmall.staysWithin _)
    have hnew : (⟨ns, [], ⟨kind, some (.number n)⟩⟩ : Key) ∉ w.given := by
      intro hmem
      obtain ⟨ns', kind', n', heq, hle⟩ := h.isGiven _ hmem
      cases heq
      omega
    have hreached : n.toInt ≤ ((w.store.step (.allocate
        ((Key.incomplete kind).withNamespace ns))).sequence (ns, kind)).toInt := by
      have hgives : Gives w.store (.allocate ((Key.incomplete kind).withNamespace ns))
          (ns, kind) n := ⟨_, _, rfl, rfl, rfl, hanswer, rfl⟩
      exact Int.le_of_eq (congrArg Int64.toInt hgives.sequence_step.symm)
    constructor
    · intro key hmem
      rw [store_concat rfl]
      rcases List.mem_cons.1 hmem with rfl | hmem
      · exact ⟨ns, kind, n, rfl, hreached⟩
      · exact (h.isGiven key hmem).mono (hsmall.not_overflows _)
    · exact List.nodup_cons.2 ⟨hnew, h.distinct⟩
    · intro key hmem
      rw [store_concat rfl]
      rcases List.mem_cons.1 hmem with rfl | hmem
      · exact get?_allocate_eq_none (hahead.get?_eq_none hfiled hlast) _
      · exact get?_allocate_eq_none (h.absent key hmem) _
  · refine h.of_perm hsmall rfl (List.Perm.refl _) fun key hmem => ⟨hmem, ?_⟩
    intro e heq
    cases heq

/-- The keys that were given out are the same ones after one of them has ceased to wait. -/
theorem perm_erase {key : Key} {waiting : List Key} (hmem : key ∈ waiting) (rest : List Key) :
    (waiting.erase key ++ key :: rest).Perm (waiting ++ rest) :=
  List.perm_middle.trans ((List.perm_cons_erase hmem).symm.append_right rest)

theorem IsFresh.finish {w : Workload} (h : w.IsFresh) (hsmall : UsesSmall w.history) (key : Key)
    (properties : Properties) (excluded : List String) :
    (w.step (.finish key properties excluded)).IsFresh := by
  simp only [step]
  split
  · next hmem =>
    have hkey := h.isGiven key (List.mem_append_left _ hmem)
    have hnodup : w.waiting.Nodup := (List.nodup_append.1 h.distinct).1
    have hothers : ∀ other ∈ w.waiting.erase key, other ∈ w.waiting ∧
        ∀ e, Action.insert (Entity.create key properties excluded) = .insert e →
          e.key.address? ≠ other.address? := by
      intro other hother
      have hbefore := List.mem_of_mem_erase hother
      refine ⟨hbefore, ?_⟩
      intro e he haddress
      cases he
      have hsame := hkey.eq_of_address? (h.isGiven other (List.mem_append_left _ hbefore)) haddress
      exact (hnodup.mem_erase_iff.1 hother).1 hsame.symm
    split
    · refine h.of_perm hsmall rfl ?_ hothers
      exact perm_erase hmem (w.returned ++ w.failed)
    · refine h.of_perm hsmall rfl ?_ hothers
      have hmiddle : (w.returned ++ key :: w.failed).Perm (key :: (w.returned ++ w.failed)) :=
        List.perm_middle
      exact (hmiddle.append_left _).trans (perm_erase hmem (w.returned ++ w.failed))
  · exact h

theorem IsFresh.other {w : Workload} (h : w.IsFresh) (hsmall : UsesSmall w.history)
    {action : Action} (hleaves : (Move.other action).leavesNumbers = true) :
    (w.step (.other action)).IsFresh := by
  refine h.of_perm hsmall rfl (List.Perm.refl _) fun key hmem => ⟨hmem, ?_⟩
  rintro e rfl haddress
  obtain ⟨ns, kind, n, rfl, -⟩ := h.isGiven key (List.mem_append_left _ hmem)
  rw [Key.address?_root] at haddress
  have hid : e.key.id = some (.number n) := Key.id_eq_getLast? haddress
  simp [Move.leavesNumbers, hid] at hleaves

theorem IsFresh.step {w : Workload} (h : w.IsFresh) {move : Move}
    (hleaves : move.leavesNumbers = true) (hsmall : UsesSmall (w.step move).history) :
    (w.step move).IsFresh := by
  have hbefore := usesSmall_of_step hsmall
  cases move with
  | start kind ns => exact h.start kind ns hbefore
  | finish key properties excluded => exact h.finish hbefore key properties excluded
  | other action => exact h.other hbefore hleaves

theorem isFresh_run {moves : List Move} (hleaves : ∀ move ∈ moves, move.leavesNumbers = true)
    (hsmall : UsesSmall (run moves).history) : (run moves).IsFresh := by
  induction moves using List.reverseRecOn with
  | nil => exact isFresh_idle
  | append_singleton moves move ih =>
    rw [run_concat] at hsmall ⊢
    have hbefore := ih (fun move hmem => hleaves move (List.mem_append_left _ hmem))
      (usesSmall_of_step hsmall)
    exact hbefore.step (hleaves move (by simp)) hsmall

/-- The ids that were given out in a partition are all different. -/
theorem IsFresh.nodup_ids {w : Workload} (h : w.IsFresh) :
    (w.given.map fun key => (key.partition, key.id)).Nodup := by
  refine List.Nodup.map_on ?_ h.distinct
  intro key hkey other hother heq
  exact (h.isGiven key hkey).key_eq (h.isGiven other hother) heq

/-- Nothing stands in the way of the second step of an insertion. -/
theorem IsFresh.insert_ok {w : Workload} (h : w.IsFresh) {key : Key} (hkey : key ∈ w.waiting)
    (hup : w.store.isUnavailable = false) (properties : Properties) (excluded : List String) :
    (w.store.insert (Entity.create key properties excluded)).1 = .ok key := by
  have habsent := h.absent key hkey
  obtain ⟨ns, kind, n, rfl, -⟩ := h.isGiven key (List.mem_append_left _ hkey)
  have hnone : w.store.entities.get? ((ns, kind), [.number n]) = none := habsent
  have hinsert := insert_of_absent
    (e := Entity.create ⟨ns, [], ⟨kind, some (.number n)⟩⟩ properties excluded) hup rfl hnone
  rw [hinsert]
  rfl

end Workload

theorem Workload.step_start {w : Workload} {kind : String} {ns : Option String} {key : Key}
    (h : (w.store.allocate ((Key.incomplete kind).withNamespace ns)).1 = .ok key) :
    w.step (.start kind ns) =
      { w with
        history := w.history ++ [.allocate ((Key.incomplete kind).withNamespace ns)]
        waiting := key :: w.waiting } := by
  simp only [step, h]

theorem Workload.step_finish {w : Workload} {key answer : Key} {properties : Properties}
    {excluded : List String} (hmem : key ∈ w.waiting)
    (h : (w.store.insert (Entity.create key properties excluded)).1 = .ok answer) :
    w.step (.finish key properties excluded) =
      { w with
        history := w.history ++ [.insert (Entity.create key properties excluded)]
        waiting := w.waiting.erase key
        returned := key :: w.returned } := by
  rw [step, if_pos hmem]
  simp only [h]

/-- An insertion of a session is the two steps of an insertion, one after the other. -/
theorem Session.insertGetId_eq_steps {w : Workload} {s s' : Session MemoryStore} {kind : String}
    {ns : Option String} {properties : Properties} {excluded : List String} {id : KeyId}
    (hstore : s.store = w.store)
    (h : s.insertGetId kind ns properties excluded = (.ok id, s')) :
    ∃ key, key.id = some id ∧
      ((w.step (.start kind ns)).step (.finish key properties excluded)).returned =
        key :: w.returned ∧
      s'.store = ((w.step (.start kind ns)).step (.finish key properties excluded)).store := by
  unfold insertGetId at h
  split at h
  · cases h
  · next key s₁ hallocate =>
    have hanswer : w.store.allocate ((Key.incomplete kind).withNamespace ns) =
        (.ok key, s₁.store) := by
      rw [← hstore]
      show ((s.allocate ((Key.incomplete kind).withNamespace ns)).1,
        (s.allocate ((Key.incomplete kind).withNamespace ns)).2.store) = _
      rw [hallocate]
    have hstart := Workload.step_start (congrArg Prod.fst hanswer)
    have hstarted : (w.step (.start kind ns)).store = s₁.store := by
      rw [hstart, Workload.store_concat rfl]
      exact congrArg Prod.snd hanswer
    split at h
    · cases h
    · next own hid =>
      simp only at h
      split at h
      · cases h
      · next answer s₂ hinsert =>
        have hkept : (w.step (.start kind ns)).store.insert
            (Entity.create key properties excluded) = (.ok answer, s₂.store) := by
          rw [hstarted]
          show (((s₁.logEvent .keyAllocated [("id", own.text), ("kind", kind)]).insert
            (Entity.create key properties excluded)).1, ((s₁.logEvent .keyAllocated
              [("id", own.text), ("kind", kind)]).insert
                (Entity.create key properties excluded)).2.store) = _
          rw [hinsert]
        have hwaiting : key ∈ (w.step (.start kind ns)).waiting := by
          rw [hstart]
          exact List.mem_cons_self
        have hfinish := Workload.step_finish hwaiting (congrArg Prod.fst hkept)
        have hreturned : (w.step (.start kind ns)).returned = w.returned := by rw [hstart]
        cases h
        refine ⟨key, hid, by rw [hfinish, hreturned], ?_⟩
        rw [hfinish, Workload.store_concat rfl]
        exact (congrArg Prod.snd hkept).symm

/-! ## The result -/

/-- Numbers are fresh.  In any run of the store, the number that an incomplete key is given is at
least one, and ahead of every number that was given out or tried in the partition and of every
number that an entity is kept under.  And in any order of the steps of any insertions, among
requests that insert under no number, the ids that insertions are given in a partition are all
different, and while the store answers, no insertion finds its key taken. -/
theorem allocate_ahead_of_all :
    (∀ actions, UsesSmall actions → ∀ key answer, key.isIncomplete = true →
      ((MemoryStore.run actions .empty).allocate key).1 = .ok answer →
      ∃ n, answer = key.withId (.number n) ∧ 1 ≤ n.toInt ∧
        (∀ m, Used actions key.partition m → m.toInt < n.toInt) ∧
        ∀ e ∈ (MemoryStore.run actions .empty).shelf key.partition, ∀ m,
          e.key.id = some (.number m) → m.toInt < n.toInt) ∧
    ∀ moves : List Workload.Move, (∀ move ∈ moves, move.leavesNumbers = true) →
      UsesSmall (Workload.run moves).history →
      ((Workload.run moves).given.map fun key => (key.partition, key.id)).Nodup ∧
        ∀ key ∈ (Workload.run moves).waiting, (Workload.run moves).store.isUnavailable = false →
          ∀ properties excluded, ((Workload.run moves).store.insert
            (Entity.create key properties excluded)).1 = .ok key := by
  constructor
  · intro actions hsmall key answer hkey hanswer
    obtain ⟨n, hid, hpos, -, hused, hstored⟩ := allocate_fresh hsmall hkey hanswer
    exact ⟨n, hid, hpos, hused, hstored⟩
  · intro moves hleaves hsmall
    have hfresh := Workload.isFresh_run hleaves hsmall
    exact ⟨hfresh.nodup_ids, fun key hkey hup => hfresh.insert_ok hkey hup⟩

/-- An entity under the number five, and an attempt to insert under its key again, move the next
number to six; and of two insertions that overlap the one that was given its key later comes
first. -/
theorem allocate_ahead_of_all_overlapping :
    (∃ n, Key.withId (.incomplete "W") (.number 6) = Key.withId (.incomplete "W") (.number n) ∧
      (∀ e ∈ (MemoryStore.run [.insert ⟨.root "W" (.number 5), [], []⟩,
          .insert ⟨.root "W" (.number 5), [], []⟩] .empty).shelf (none, "W"),
        ∀ m, e.key.id = some (.number m) → m.toInt < n.toInt)) ∧
    ((Workload.run [.start "W" none, .start "W" none,
      .finish (.root "W" (.number 2)) [] []]).store.insert
        (Entity.create (.root "W" (.number 1)) [] [])).1 = .ok (.root "W" (.number 1)) := by
  have hinserts : UsesSmall [.insert ⟨.root "W" (.number 5), [], []⟩,
      .insert ⟨.root "W" (.number 5), [], []⟩] :=
    (usesSmall_nil.insert ⟨.root "W" (.number 5), [], []⟩ (by decide)).insert
      ⟨.root "W" (.number 5), [], []⟩ (by decide)
  have hoverlap : UsesSmall (Workload.run [.start "W" none, .start "W" none,
      .finish (.root "W" (.number 2)) [] []]).history :=
    ((usesSmall_nil.allocate (.incomplete "W") (by decide)).allocate
      (.incomplete "W") (by decide)).insert (Entity.create (.root "W" (.number 2)) [] [])
        (by decide)
  obtain ⟨n, hid, -, -, hstored⟩ :=
    allocate_ahead_of_all.1 _ hinserts (.incomplete "W") (.withId (.incomplete "W") (.number 6))
      rfl rfl
  exact ⟨⟨n, hid, hstored⟩,
    (allocate_ahead_of_all.2 _ (by decide) hoverlap).2 (.root "W" (.number 1)) (by decide)
      (by rfl) [] []⟩

end EntityQuery
