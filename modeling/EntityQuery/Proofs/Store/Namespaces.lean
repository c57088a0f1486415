import EntityQuery.Proofs.Store.Sequences

/-!
# Namespaces

What is asked of a store in memory in one namespace does not depend on what is asked of it in
others.

* Runs.  `MemoryStore.transcript` is the run of a store with the reply to each action, and
  `Action.concerns` says which actions are about a namespace.
* Agreement.  `AgreeOn` relates stores that are the same as far as a namespace goes.
  `agreeOn_step_of_not_concerns` is that an action on another namespace keeps to that, and
  `AgreeOn.step` that an action does the same to stores that agree; `AgreeOn.reply` is that these
  reply the same.
* The result.  `namespaces_do_not_interfere`, by induction on the run.
-/

namespace EntityQuery.MemoryStore

/-! ## Runs -/

/-- What a store replies to an action. -/
inductive Reply where
  | key (answer : Except StoreError Key)
  | entities (answer : Except StoreError EntityStream)
  /-- The store was made to answer, or to answer nothing. -/
  | switched

/-- The reply of a store to an action. -/
def reply (store : MemoryStore) : Action → Reply
  | .allocate key => .key (store.allocate key).1
  | .insert e => .key (store.insert e).1
  | .query query => .entities (store.runQuery query).1
  | .setUnavailable _ => .switched

/-- The actions of a run in order, each with the reply to it. -/
def transcript : List Action → MemoryStore → List (Action × Reply)
  | [], _ => []
  | action :: actions, store =>
    (action, store.reply action) :: transcript actions (store.step action)

/-- Whether an action is about a namespace: it is on a key or a query there, or on the whole
store. -/
def Action.concerns (ns : Option String) : Action → Bool
  | .allocate key => key.ns == ns
  | .insert e => e.key.ns == ns
  | .query asked => asked.ns == ns
  | .setUnavailable _ => true

/-! ## Agreement -/

/-- Two stores are the same as far as a namespace goes. -/
structure AgreeOn (ns : Option String) (store other : MemoryStore) : Prop where
  isUnavailable : store.isUnavailable = other.isUnavailable
  sequences : ∀ kind, store.sequences.get? (ns, kind) = other.sequences.get? (ns, kind)
  entities : ∀ kind ids,
    store.entities.get? ((ns, kind), ids) = other.entities.get? ((ns, kind), ids)

variable {ns : Option String} {store other : MemoryStore}

theorem AgreeOn.refl (ns : Option String) (store : MemoryStore) : AgreeOn ns store store :=
  ⟨rfl, fun _ => rfl, fun _ _ => rfl⟩

theorem AgreeOn.trans {third : MemoryStore} (h : AgreeOn ns store other)
    (h' : AgreeOn ns other third) : AgreeOn ns store third :=
  ⟨h.isUnavailable.trans h'.isUnavailable, fun kind => (h.sequences kind).trans (h'.sequences kind),
    fun kind ids => (h.entities kind ids).trans (h'.entities kind ids)⟩

theorem AgreeOn.sequence_eq (h : AgreeOn ns store other) (kind : String) :
    store.sequence (ns, kind) = other.sequence (ns, kind) := by
  rw [sequence, sequence, h.sequences]

theorem AgreeOn.shelf_eq (h : AgreeOn ns store other) (kind : String) :
    store.shelf (ns, kind) = other.shelf (ns, kind) := by
  have hentries := OrderedMap.filter_entries_congr (m := store.entities) (n := other.entities)
    (p := fun address => address.1 == (ns, kind)) (by
      rintro ⟨partition, ids⟩ hpartition
      rw [beq_iff_eq] at hpartition
      cases hpartition
      exact h.entities kind ids)
  rw [shelf, shelf, hentries]

/-! ### Actions on another namespace -/

theorem ne_partition {key : Key} (h : key.ns ≠ ns) (kind : String) :
    (ns, kind) ≠ key.partition := by
  intro heq
  exact h (Prod.mk.inj heq).1.symm

/-- An action on another namespace changes nothing as far as the namespace goes. -/
theorem agreeOn_step_of_not_concerns {action : Action} (h : action.concerns ns = false)
    (store : MemoryStore) : AgreeOn ns (store.step action) store := by
  cases action with
  | allocate key =>
    have hne : key.ns ≠ ns := ne_of_beq_false h
    rcases allocate_cases key store with ⟨hstep, -⟩ | ⟨hstep, -⟩ | ⟨hstep, -⟩
    · rw [step, hstep]
      exact .refl ns store
    · rw [step, hstep]
      exact .refl ns store
    · rw [step, hstep]
      refine ⟨rfl, fun kind => ?_, fun kind ids => rfl⟩
      rw [OrderedMap.get?_insert, if_neg (ne_partition hne kind)]
  | insert e =>
    have hne : e.key.ns ≠ ns := ne_of_beq_false h
    rcases insert_cases e store with
      ⟨hstep, -⟩ | ⟨hstep, -⟩ | ⟨address, haddress, -, ⟨old, -, hstep⟩ | ⟨-, hstep⟩⟩
    · rw [step, hstep]
      exact .refl ns store
    · rw [step, hstep]
      exact .refl ns store
    · rw [step, hstep]
      exact ⟨rfl, fun kind => get?_advance_of_ne (ne_partition hne kind) store, fun _ _ => rfl⟩
    · rw [step, hstep]
      refine ⟨rfl, fun kind => get?_advance_of_ne (ne_partition hne kind) store, fun kind ids => ?_⟩
      have hother : ((ns, kind), ids) ≠ address := by
        rintro rfl
        exact ne_partition hne kind (Key.address?_fst haddress)
      rw [OrderedMap.get?_insert, if_neg hother]
  | query asked => exact ⟨rfl, fun _ => rfl, fun _ _ => rfl⟩
  | setUnavailable isUnavailable => cases h

/-! ### Actions on the namespace -/

theorem AgreeOn.allocate {key : Key} (h : AgreeOn key.ns store other) :
    (store.allocate key).1 = (other.allocate key).1 ∧
      AgreeOn key.ns (store.allocate key).2 (other.allocate key).2 := by
  have hsequence : store.sequence key.partition = other.sequence key.partition :=
    h.sequence_eq key.kind
  rw [MemoryStore.allocate, MemoryStore.allocate, h.isUnavailable, hsequence]
  split
  · exact ⟨rfl, h⟩
  · split
    · refine ⟨rfl, rfl, fun kind => ?_, h.entities⟩
      rw [OrderedMap.get?_insert, OrderedMap.get?_insert, h.sequences]
    · exact ⟨rfl, h⟩

theorem AgreeOn.advance {key : Key} (h : AgreeOn key.ns store other) (kind : String) :
    (store.advance key).get? (key.ns, kind) = (other.advance key).get? (key.ns, kind) := by
  have hsequence : store.sequence key.partition = other.sequence key.partition :=
    h.sequence_eq key.kind
  rw [MemoryStore.advance, MemoryStore.advance, hsequence]
  split
  · rw [OrderedMap.get?_insert, OrderedMap.get?_insert, h.sequences]
  · exact h.sequences kind

theorem AgreeOn.insert {e : Entity} (h : AgreeOn e.key.ns store other) :
    (store.insert e).1 = (other.insert e).1 ∧
      AgreeOn e.key.ns (store.insert e).2 (other.insert e).2 := by
  rw [MemoryStore.insert, MemoryStore.insert, h.isUnavailable]
  split
  · exact ⟨rfl, h⟩
  · cases haddress : e.key.address? with
    | none => exact ⟨rfl, h⟩
    | some address =>
      obtain ⟨partition, ids⟩ := address
      have hpartition : partition = e.key.partition := Key.address?_fst haddress
      have hkept : store.entities.get? (partition, ids) = other.entities.get? (partition, ids) :=
        hpartition ▸ h.entities e.key.kind ids
      simp only [hkept]
      cases other.entities.get? (partition, ids) with
      | some old => exact ⟨rfl, rfl, h.advance, h.entities⟩
      | none =>
        refine ⟨rfl, rfl, h.advance, fun kind own => ?_⟩
        rw [OrderedMap.get?_insert, OrderedMap.get?_insert, h.entities]

theorem AgreeOn.answer {query : StoreQuery} (h : AgreeOn query.ns store other) :
    store.answer query = other.answer query := by
  rw [MemoryStore.answer, MemoryStore.answer, h.isUnavailable]
  split
  · exact rfl
  · cases Gql.parse query.gql with
    | error e => exact rfl
    | ok statement => simp only [h.shelf_eq]

/-- Stores that agree on a namespace reply the same to an action on it, and agree after it. -/
theorem AgreeOn.step {action : Action} (h : AgreeOn ns store other)
    (hconcerns : action.concerns ns = true) :
    store.reply action = other.reply action ∧
      AgreeOn ns (store.step action) (other.step action) := by
  cases action with
  | allocate key =>
    obtain rfl : key.ns = ns := eq_of_beq hconcerns
    exact ⟨congrArg Reply.key h.allocate.1, h.allocate.2⟩
  | insert e =>
    obtain rfl : e.key.ns = ns := eq_of_beq hconcerns
    exact ⟨congrArg Reply.key h.insert.1, h.insert.2⟩
  | query asked =>
    obtain rfl : asked.ns = ns := eq_of_beq hconcerns
    exact ⟨congrArg Reply.entities h.answer, h.isUnavailable, h.sequences, h.entities⟩
  | setUnavailable isUnavailable => exact ⟨rfl, rfl, h.sequences, h.entities⟩

/-! ## The result -/

/-- Runs of stores that agree on a namespace, of which one leaves out the actions on others: what
is left has the same replies, and the stores agree in the end. -/
theorem AgreeOn.run (h : AgreeOn ns store other) (actions : List Action) :
    (transcript actions store).filter (·.1.concerns ns) =
        transcript (actions.filter (·.concerns ns)) other ∧
      AgreeOn ns (run actions store) (run (actions.filter (·.concerns ns)) other) := by
  induction actions generalizing store other with
  | nil => exact ⟨rfl, h⟩
  | cons action actions ih =>
    cases hconcerns : action.concerns ns with
    | true =>
      have hkept : (action :: actions).filter (·.concerns ns) =
          action :: actions.filter (·.concerns ns) := List.filter_cons_of_pos hconcerns
      have hfirst : (transcript (action :: actions) store).filter (·.1.concerns ns) =
          (action, store.reply action) ::
            (transcript actions (store.step action)).filter (·.1.concerns ns) :=
        List.filter_cons_of_pos hconcerns
      obtain ⟨hreply, hstep⟩ := h.step hconcerns
      obtain ⟨hrest, hend⟩ := ih hstep
      rw [hkept, hfirst, hreply, hrest]
      exact ⟨rfl, hend⟩
    | false =>
      have hskip : ¬action.concerns ns = true := Bool.eq_false_iff.1 hconcerns
      have hkept : (action :: actions).filter (·.concerns ns) = actions.filter (·.concerns ns) :=
        List.filter_cons_of_neg hskip
      have hfirst : (transcript (action :: actions) store).filter (·.1.concerns ns) =
          (transcript actions (store.step action)).filter (·.1.concerns ns) :=
        List.filter_cons_of_neg hskip
      rw [hkept, hfirst]
      exact ih ((agreeOn_step_of_not_concerns hconcerns store).trans h)

/-- Leaving all actions on other namespaces out of a run changes no reply to those on one
namespace, and leaves the entities and the sequences of that namespace as they would have been. -/
theorem namespaces_do_not_interfere (ns : Option String) (actions : List Action) :
    (transcript actions empty).filter (·.1.concerns ns) =
        transcript (actions.filter (·.concerns ns)) empty ∧
      ∀ kind,
        (run actions empty).shelf (ns, kind) =
          (run (actions.filter (·.concerns ns)) empty).shelf (ns, kind) ∧
        (run actions empty).sequences.get? (ns, kind) =
          (run (actions.filter (·.concerns ns)) empty).sequences.get? (ns, kind) ∧
        ∀ ids, (run actions empty).entities.get? ((ns, kind), ids) =
          (run (actions.filter (·.concerns ns)) empty).entities.get? ((ns, kind), ids) := by
  obtain ⟨hreplies, hend⟩ := AgreeOn.run (.refl ns empty) actions
  exact ⟨hreplies, fun kind => ⟨hend.shelf_eq kind, hend.sequences kind, hend.entities kind⟩⟩

end EntityQuery.MemoryStore
