import EntityQuery.Store.Memory

/-!
# Runs of the store in memory

What a store in memory goes through from the empty store, whatever is asked of it.

* Requests.  `allocate_cases` and `insert_cases` say once what each request can do; all
  that follows is derived from them.
* Runs.  `MemoryStore.run` carries out actions one after another, and `Reachable` is what a
  run from the empty store can lead to.  `Occurs` is that something happens in a run.
* What stays.  `entities_get?_run`: entities are neither removed nor replaced.
* The invariant.  `IsFiled` says where entities are kept; `Reachable.isFiled` is that it holds
  throughout.
-/

namespace EntityQuery

namespace Key

theorem address?_fst {key : Key} {address : Address} (h : key.address? = some address) :
    address.1 = key.partition := by
  rw [address?, Option.map_eq_some_iff] at h
  obtain ⟨ids, -, rfl⟩ := h
  rfl

theorem ids?_eq (key : Key) :
    key.ids? =
      (key.ancestors.mapM PathElement.id).bind fun ids => key.id.map fun id => ids ++ [id] := by
  rw [ids?, path, List.mapM_append]
  cases key.ancestors.mapM PathElement.id with
  | none => rfl
  | some ids => cases h : key.last.id <;> simp [id, h]

/-- The ids of a path end with the id of the entity. -/
theorem id_eq_getLast? {key : Key} {address : Address} (h : key.address? = some address) :
    key.id = address.2.getLast? := by
  rw [address?, ids?_eq] at h
  cases hids : key.ancestors.mapM PathElement.id with
  | none => rw [hids] at h; cases h
  | some ids =>
    rw [hids] at h
    cases hid : key.id with
    | none => rw [hid] at h; cases h
    | some id =>
      rw [hid] at h
      cases h
      simp

theorem address?_root (ns : Option String) (kind : String) (id : KeyId) :
    (⟨ns, [], ⟨kind, some id⟩⟩ : Key).address? = some ((ns, kind), [id]) := rfl

/-- A key with a single id on its path is the one without ancestors. -/
theorem eq_root_of_address? {key : Key} {ns : Option String} {kind : String} {id : KeyId}
    (h : key.address? = some ((ns, kind), [id])) : key = ⟨ns, [], ⟨kind, some id⟩⟩ := by
  have hpartition := address?_fst h
  have hid := id_eq_getLast? h
  obtain ⟨ns', ancestors, ⟨kind', id'⟩⟩ := key
  cases hpartition
  cases hid
  cases ancestors with
  | nil => rfl
  | cons first rest =>
    rw [address?, ids?_eq] at h
    simp only [List.mapM_cons] at h
    cases hfirst : first.id with
    | none => simp [hfirst] at h
    | some own =>
      cases hrest : rest.mapM PathElement.id with
      | none => simp [hfirst, hrest] at h
      | some ids => simp [hfirst, hrest, Key.id] at h

end Key

namespace MemoryStore

/-! ## Requests -/

/-- All that a request for an id does. -/
theorem allocate_cases (key : Key) (store : MemoryStore) :
    store.allocate key = (.error .unavailable, store) ∧ store.isUnavailable = true ∨
    store.allocate key = (.ok key, store) ∧ store.isUnavailable = false ∧
      key.isIncomplete = false ∨
    store.allocate key =
        (.ok (key.withId (.number (store.sequence key.partition + 1))),
          { store with
            sequences := store.sequences.insert key.partition (store.sequence key.partition + 1)
            allocations := store.allocations + 1 }) ∧
      store.isUnavailable = false ∧ key.isIncomplete = true := by
  unfold allocate
  by_cases hdown : store.isUnavailable = true
  · rw [if_pos hdown]
    exact .inl ⟨rfl, hdown⟩
  · have hup : store.isUnavailable = false := Bool.eq_false_iff.2 hdown
    rw [if_neg hdown]
    by_cases hkey : key.isIncomplete = true
    · rw [if_pos hkey]
      exact .inr (.inr ⟨rfl, hup, hkey⟩)
    · rw [if_neg hkey]
      exact .inr (.inl ⟨rfl, hup, Bool.eq_false_iff.2 hkey⟩)

/-- All that a request to keep an entity does. -/
theorem insert_cases (e : Entity) (store : MemoryStore) :
    store.insert e = (.error .unavailable, store) ∧ store.isUnavailable = true ∨
    store.insert e = (.error (.incompleteKey e.key.text), store) ∧
      store.isUnavailable = false ∧ e.key.address? = none ∨
    ∃ address, e.key.address? = some address ∧ store.isUnavailable = false ∧
      ((∃ old, store.entities.get? address = some old ∧
          store.insert e = (.error (.alreadyExists e.key.text),
            { store with sequences := store.advance e.key })) ∨
        store.entities.get? address = none ∧
          store.insert e = (.ok e.key,
            { store with
              sequences := store.advance e.key
              entities := store.entities.insert address e
              writes := store.writes + 1 })) := by
  unfold insert
  by_cases hdown : store.isUnavailable = true
  · rw [if_pos hdown]
    exact .inl ⟨rfl, hdown⟩
  · have hup : store.isUnavailable = false := Bool.eq_false_iff.2 hdown
    rw [if_neg hdown]
    cases haddress : e.key.address? with
    | none => exact .inr (.inl ⟨rfl, hup, rfl⟩)
    | some address =>
      refine .inr (.inr ⟨address, rfl, hup, ?_⟩)
      cases hold : store.entities.get? address with
      | none => exact .inr ⟨rfl, by simp only [hold]⟩
      | some old => exact .inl ⟨old, rfl, by simp only [hold]⟩

/-- A store that answers gives an incomplete key the next number. -/
theorem allocate_of_incomplete (key : Key) {store : MemoryStore}
    (hup : store.isUnavailable = false) (hkey : key.isIncomplete = true) :
    store.allocate key =
      (.ok (key.withId (.number (store.sequence key.partition + 1))),
        { store with
          sequences := store.sequences.insert key.partition (store.sequence key.partition + 1)
          allocations := store.allocations + 1 }) := by
  rcases allocate_cases key store with ⟨-, hdown⟩ | ⟨-, -, hcomplete⟩ | ⟨h, -, -⟩
  · rw [hup] at hdown
    cases hdown
  · rw [hkey] at hcomplete
    cases hcomplete
  · exact h

/-- A store that answers keeps a new entity where there is none. -/
theorem insert_of_absent {e : Entity} {address : Key.Address} {store : MemoryStore}
    (hup : store.isUnavailable = false) (haddress : e.key.address? = some address)
    (habsent : store.entities.get? address = none) :
    store.insert e =
      (.ok e.key,
        { store with
          sequences := store.advance e.key
          entities := store.entities.insert address e
          writes := store.writes + 1 }) := by
  rcases insert_cases e store with
    ⟨-, hdown⟩ | ⟨-, -, hnone⟩ | ⟨place, hplace, -, ⟨old, hold, -⟩ | ⟨-, h⟩⟩
  · rw [hup] at hdown
    cases hdown
  · cases haddress.symm.trans hnone
  · cases haddress.symm.trans hplace
    cases habsent.symm.trans hold
  · cases haddress.symm.trans hplace
    exact h

/-! ## Runs -/

/-- What may be asked of a store, or done to it. -/
inductive Action where
  | allocate (key : Key)
  | insert (e : Entity)
  | query (query : StoreQuery)
  | setUnavailable (isUnavailable : Bool)

/-- The store after an action. -/
def step (store : MemoryStore) : Action → MemoryStore
  | .allocate key => (store.allocate key).2
  | .insert e => (store.insert e).2
  | .query query => (store.runQuery query).2
  | .setUnavailable isUnavailable => store.setUnavailable isUnavailable

/-- The store after actions in order. -/
def run (actions : List Action) (store : MemoryStore) : MemoryStore :=
  actions.foldl step store

theorem run_concat (actions : List Action) (action : Action) (store : MemoryStore) :
    run (actions ++ [action]) store = (run actions store).step action := by
  rw [run, List.foldl_append]
  rfl

/-- The stores that a run from the empty one leads to. -/
def Reachable (store : MemoryStore) : Prop := ∃ actions, run actions empty = store

/-- At some point of a run from the empty store, the store and the action that comes next are such
as is said. -/
def Occurs (p : MemoryStore → Action → Prop) (actions : List Action) : Prop :=
  ∃ before action after, actions = before ++ action :: after ∧ p (run before empty) action

theorem not_occurs_nil (p : MemoryStore → Action → Prop) : ¬Occurs p [] := by
  rintro ⟨before, action, after, h, -⟩
  cases before <;> cases h

theorem occurs_concat {p : MemoryStore → Action → Prop} {actions : List Action} {action : Action} :
    Occurs p (actions ++ [action]) ↔ Occurs p actions ∨ p (run actions empty) action := by
  constructor
  · rintro ⟨before, next, after, h, hnext⟩
    rcases List.eq_nil_or_concat after with rfl | ⟨after, last, rfl⟩
    · obtain ⟨rfl, hlast⟩ := List.append_inj' h rfl
      cases hlast
      exact .inr hnext
    · have hsplit : actions ++ [action] = (before ++ next :: after) ++ [last] := by
        rw [h]
        simp
      obtain ⟨rfl, -⟩ := List.append_inj' hsplit rfl
      exact .inl ⟨before, next, after, rfl, hnext⟩
  · rintro (⟨before, next, after, rfl, hnext⟩ | hnext)
    · exact ⟨before, next, after ++ [action], by simp, hnext⟩
    · exact ⟨actions, action, [], rfl, hnext⟩

theorem Occurs.append {p : MemoryStore → Action → Prop} {actions : List Action}
    (h : Occurs p actions) (more : List Action) : Occurs p (actions ++ more) := by
  obtain ⟨before, action, after, rfl, hnext⟩ := h
  exact ⟨before, action, after ++ more, by simp, hnext⟩

/-! ## What stays -/

/-- What an action does to the entities: it keeps them, or puts one where there was none. -/
theorem entities_step (store : MemoryStore) (action : Action) :
    (store.step action).entities = store.entities ∨
      ∃ e address, action = .insert e ∧ e.key.address? = some address ∧
        store.entities.get? address = none ∧
        (store.step action).entities = store.entities.insert address e ∧
        (store.step action).sequences = store.advance e.key := by
  cases action with
  | allocate key =>
    rcases allocate_cases key store with ⟨h, -⟩ | ⟨h, -⟩ | ⟨h, -⟩ <;> exact .inl (by rw [step, h])
  | insert e =>
    rcases insert_cases e store with
      ⟨h, -⟩ | ⟨h, -⟩ | ⟨address, haddress, -, ⟨old, -, h⟩ | ⟨hnone, h⟩⟩
    · exact .inl (by rw [step, h])
    · exact .inl (by rw [step, h])
    · exact .inl (by rw [step, h])
    · exact .inr ⟨e, address, rfl, haddress, hnone, by rw [step, h], by rw [step, h]⟩
  | query | setUnavailable => exact .inl rfl

theorem entities_get?_step {store : MemoryStore} {address : Key.Address} {e : Entity}
    (h : store.entities.get? address = some e) (action : Action) :
    (store.step action).entities.get? address = some e := by
  rcases entities_step store action with hsame | ⟨new, place, -, -, hnone, hinsert, -⟩
  · rw [hsame, h]
  · have hne : address ≠ place := by
      intro heq
      rw [heq, hnone] at h
      cases h
    rw [hinsert, OrderedMap.get?_insert, if_neg hne, h]

/-- An entity that is kept stays as it is. -/
theorem entities_get?_run {store : MemoryStore} {address : Key.Address} {e : Entity}
    (h : store.entities.get? address = some e) (actions : List Action) :
    (run actions store).entities.get? address = some e := by
  induction actions generalizing store with
  | nil => exact h
  | cons action actions ih => exact ih (entities_get?_step h action)

/-- Nothing gets under a key but by an insertion at its address. -/
theorem get?_step_eq_none {store : MemoryStore} {key : Key} (h : store.get? key = none)
    (action : Action) (hne : ∀ e, action = .insert e → e.key.address? ≠ key.address?) :
    (store.step action).get? key = none := by
  rcases entities_step store action with hsame | ⟨e, place, rfl, haddress, -, hinsert, -⟩
  · rw [get?, hsame]
    exact h
  · have hkey := hne e rfl
    rw [get?] at h ⊢
    cases hown : key.address? with
    | none => rfl
    | some own =>
      rw [hown] at h hkey
      have hother : own ≠ place := fun heq => hkey (by rw [haddress, heq])
      rw [hinsert, Option.bind_some, OrderedMap.get?_insert, if_neg hother]
      exact h

theorem get?_allocate_eq_none {store : MemoryStore} {key : Key} (h : store.get? key = none)
    (asked : Key) : (store.step (.allocate asked)).get? key = none := by
  refine get?_step_eq_none h _ ?_
  intro e heq
  cases heq

/-! ## The invariant -/

/-- Every entity is kept under its own address. -/
structure IsFiled (store : MemoryStore) : Prop where
  address : ∀ {place e}, store.entities.get? place = some e → e.key.address? = some place

theorem isFiled_empty : IsFiled empty := ⟨fun h => (nomatch h)⟩

theorem IsFiled.step {store : MemoryStore} (h : store.IsFiled) (action : Action) :
    (store.step action).IsFiled := by
  constructor
  intro place e he
  rcases entities_step store action with hsame | ⟨new, own, rfl, haddress, -, hinsert, -⟩
  · rw [hsame] at he
    exact h.address he
  · rw [hinsert, OrderedMap.get?_insert] at he
    split at he
    · next heq =>
      cases he
      rw [heq, haddress]
    · exact h.address he

theorem IsFiled.run {store : MemoryStore} (h : store.IsFiled) (actions : List Action) :
    (run actions store).IsFiled := by
  induction actions generalizing store with
  | nil => exact h
  | cons action actions ih => exact ih (h.step action)

theorem Reachable.isFiled {store : MemoryStore} (h : store.Reachable) : store.IsFiled := by
  obtain ⟨actions, rfl⟩ := h
  exact isFiled_empty.run actions

/-! ## Shelves -/

theorem mem_shelf {store : MemoryStore} {partition : Key.Partition} {e : Entity} :
    e ∈ store.shelf partition ↔ ∃ ids, store.entities.get? (partition, ids) = some e := by
  simp only [shelf, List.mem_map, List.mem_filter, beq_iff_eq]
  constructor
  · rintro ⟨⟨⟨own, ids⟩, value⟩, ⟨hmem, rfl⟩, rfl⟩
    exact ⟨ids, (OrderedMap.mem_entries_iff ..).1 hmem⟩
  · rintro ⟨ids, h⟩
    exact ⟨((partition, ids), e), ⟨(OrderedMap.mem_entries_iff ..).2 h, rfl⟩, rfl⟩

theorem IsFiled.partition {store : MemoryStore} (h : store.IsFiled) {partition : Key.Partition}
    {e : Entity} (he : e ∈ store.shelf partition) : e.key.partition = partition := by
  obtain ⟨ids, hget⟩ := mem_shelf.1 he
  exact (Key.address?_fst (h.address hget)).symm

end MemoryStore

end EntityQuery
