import EntityQuery.Proofs.Session.Insertions
import EntityQuery.Proofs.Session.Lookup
import EntityQuery.Proofs.Store.Sequences

/-!
# Reading what was written

An entity that was inserted is found by its id from then on, whatever else is asked of
the store.

* Exclusions.  `mem_ascendingNames`: the names that are kept are those that were given.
* Writing.  `Session.insertGetId_eq_ok` says what an insertion does to a store that
  answers.
* Reading.  `Query.find_of_stored` finds the entity that is kept under a key.
* The result.  `Query.readsBack_of_insertGetId` puts them together, over any run of the store that
  comes after the insertion.
-/

namespace EntityQuery

/-! ## Exclusions -/

theorem mem_keys_insertEntry {κ ν : Type} [TotalOrder κ] {key other : κ} {value : ν}
    {entries : List (κ × ν)} :
    other ∈ (insertEntry key value entries).map Prod.fst ↔
      other = key ∨ other ∈ entries.map Prod.fst := by
  induction entries with
  | nil => simp [insertEntry]
  | cons entry rest ih =>
    unfold insertEntry
    split
    · simp
    · next heq =>
      rw [TotalOrder.order_eq_iff.1 heq]
      simp
    · rw [List.map_cons, List.mem_cons, ih, List.map_cons, List.mem_cons]
      exact or_left_comm

/-- The names that are kept are those that were given. -/
theorem mem_ascendingNames {name : String} {names : List String} :
    name ∈ ascendingNames names ↔ name ∈ names := by
  have hfold : ∀ entries : List (String × Unit),
      name ∈ (names.foldl (fun entries name => insertEntry name () entries) entries).map Prod.fst ↔
        name ∈ entries.map Prod.fst ∨ name ∈ names := by
    induction names with
    | nil => simp
    | cons first names ih =>
      intro entries
      rw [List.foldl_cons, ih, mem_keys_insertEntry, List.mem_cons, or_comm (a := name = first),
        or_assoc]
  rw [ascendingNames, hfold]
  simp

/-! ## Writing -/

namespace MemoryStore

/-- The key that the next insertion into a partition is given. -/
def nextKey (store : MemoryStore) (ns : Option String) (kind : String) : Key :=
  (Key.root kind (.number (store.sequence (ns, kind) + 1))).withNamespace ns

/-- A store that answers gives out the next number of a partition, and keeps nothing under it. -/
theorem allocate_eq_nextKey {store : MemoryStore} {ns : Option String} {kind : String}
    (hfiled : store.IsFiled) (hahead : store.IsAhead (ns, kind))
    (hup : store.isUnavailable = false)
    (hsmall : (store.sequence (ns, kind)).toInt < 9223372036854775807) :
    ∃ store', store.allocate ((Key.incomplete kind).withNamespace ns) =
        (.ok (store.nextKey ns kind), store') ∧
      store'.IsFiled ∧ store'.isUnavailable = false ∧
      store'.get? (store.nextKey ns kind) = none := by
  have hnext : (store.sequence (ns, kind)).toInt < (store.sequence (ns, kind) + 1).toInt := by
    rw [toInt_succ hsmall]
    omega
  have hfiled' := hfiled.step (.allocate ((Key.incomplete kind).withNamespace ns))
  have habsent := get?_allocate_eq_none (hahead.get?_eq_none hfiled hnext)
    ((Key.incomplete kind).withNamespace ns)
  have hgives := allocate_of_incomplete ((Key.incomplete kind).withNamespace ns) hup rfl
  rw [step, hgives] at hfiled' habsent
  exact ⟨_, hgives, hfiled', hup, habsent⟩

/-- A store that answers keeps an entity under a complete key that it keeps nothing under. -/
theorem insert_eq_ok {store : MemoryStore} {e : Entity} {address : Key.Address}
    (hfiled : store.IsFiled) (hup : store.isUnavailable = false)
    (haddress : e.key.address? = some address) (habsent : store.get? e.key = none) :
    ∃ store', store.insert e = (.ok e.key, store') ∧ store'.IsFiled ∧
      store'.get? e.key = some e := by
  have hfiled' := hfiled.step (.insert e)
  rw [get?, haddress, Option.bind_some] at habsent
  have hinsert := insert_of_absent hup haddress habsent
  rw [step, hinsert] at hfiled'
  refine ⟨_, hinsert, hfiled', ?_⟩
  rw [get?, haddress, Option.bind_some, OrderedMap.get?_insert, if_pos rfl]

/-- The store after an entity was inserted under the next number of a partition. -/
def insertNext (store : MemoryStore) (ns : Option String) (kind : String) (properties : Properties)
    (excluded : List String) : MemoryStore :=
  run [.allocate ((Key.incomplete kind).withNamespace ns),
    .insert (Entity.create (store.nextKey ns kind) properties excluded)] store

end MemoryStore

/-- An insertion into a store that answers succeeds, and the entity is kept under the next number
of its partition. -/
theorem Session.insertGetId_eq_insertNext {s : Session MemoryStore} {kind : String}
    {ns : Option String} (properties : Properties) (excluded : List String)
    (hfiled : s.store.IsFiled) (hahead : s.store.IsAhead (ns, kind))
    (hup : s.store.isUnavailable = false)
    (hsmall : (s.store.sequence (ns, kind)).toInt < 9223372036854775807) :
    (∃ journal, s.insertGetId kind ns properties excluded =
        (.ok (.number (s.store.sequence (ns, kind) + 1)),
          ⟨s.store.insertNext ns kind properties excluded, journal⟩)) ∧
      (s.store.insertNext ns kind properties excluded).get? (s.store.nextKey ns kind) =
        some (Entity.create (s.store.nextKey ns kind) properties excluded) := by
  obtain ⟨store₁, hallocate, hfiled₁, hup₁, habsent⟩ :=
    MemoryStore.allocate_eq_nextKey hfiled hahead hup hsmall
  obtain ⟨store₂, hinsert, -, hkept⟩ := MemoryStore.insert_eq_ok
    (e := Entity.create (s.store.nextKey ns kind) properties excluded) hfiled₁ hup₁
    (Key.address?_root ns kind _) habsent
  have hstore : s.store.insertNext ns kind properties excluded = store₂ := by
    show ((s.store.step (.allocate _)).step (.insert _)) = store₂
    rw [MemoryStore.step, MemoryStore.step, hallocate, hinsert]
  rw [hstore]
  exact ⟨insertGetId_eq_ok_of_store rfl hallocate hinsert, hkept⟩

theorem Session.insertGetId_eq_ok {s : Session MemoryStore} {kind : String} {ns : Option String}
    (properties : Properties) (excluded : List String) (hfiled : s.store.IsFiled)
    (hahead : s.store.IsAhead (ns, kind)) (hup : s.store.isUnavailable = false)
    (hsmall : (s.store.sequence (ns, kind)).toInt < 9223372036854775807) :
    ∃ s', s.insertGetId kind ns properties excluded =
        (.ok (.number (s.store.sequence (ns, kind) + 1)), s') ∧
      s'.store.IsFiled ∧
      s'.store.get? (s.store.nextKey ns kind) =
        some (Entity.create (s.store.nextKey ns kind) properties excluded) := by
  obtain ⟨⟨journal, hreturned⟩, hkept⟩ := insertGetId_eq_insertNext properties excluded hfiled
    hahead hup hsmall
  exact ⟨_, hreturned, hfiled.run _, hkept⟩

/-! ## Reading -/

theorem head?_eq_some_of_mem_iff {α : Type} {a : α} {xs : List α} (h : ∀ x, x ∈ xs ↔ x = a) :
    xs.head? = some a := by
  cases xs with
  | nil => cases (h a).2 rfl
  | cons x xs => exact congrArg some ((h x).1 List.mem_cons_self)

open MemoryStore

/-- Of the entities of a partition, one alone has no ancestors and the given id: the one that is
kept under their key. -/
theorem MemoryStore.IsFiled.mem_shelf_root_iff {store : MemoryStore} (h : store.IsFiled)
    {ns : Option String} {kind : String} {id : KeyId} {e : Entity}
    (hkept : store.get? ((Key.root kind id).withNamespace ns) = some e) (other : Entity) :
    other ∈ store.shelf (ns, kind) ∧ other.key.ancestors = [] ∧
      KeyLiteral.addresses ⟨kind, id⟩ other.key = true ↔ other = e := by
  have hplace : store.entities.get? ((ns, kind), [id]) = some e := hkept
  constructor
  · rintro ⟨hmem, hancestors, haddressed⟩
    obtain ⟨ids, hother⟩ := mem_shelf.1 hmem
    have hown : other.key.id = some id := by
      simp only [KeyLiteral.addresses, Bool.and_eq_true, beq_iff_eq] at haddressed
      exact haddressed.2
    have hids : ids = [id] := by
      have haddress := h.address hother
      rw [Key.address?, Key.ids?_eq, hancestors, hown] at haddress
      exact (Prod.mk.inj (Option.some.inj haddress)).2.symm
    rw [hids, hplace] at hother
    exact (Option.some.inj hother).symm
  · rintro rfl
    refine ⟨mem_shelf.2 ⟨[id], hplace⟩, ?_⟩
    rw [Key.eq_root_of_address? (h.address hplace)]
    simp [KeyLiteral.addresses, Key.kind, Key.id]

namespace Query

/-- An entity that is kept under a key without ancestors is what the look-up of its id answers
with, if the query says nothing else about what to find. -/
theorem find_of_stored {q : Query} {kind : String} {id : KeyId} {e : Entity}
    {s : Session MemoryStore} (hkind : q.kind = some kind) (hclauses : q.clauses = [])
    (hprojections : q.projections = []) (hoffset : q.offset = none)
    (hup : s.store.isUnavailable = false) (hfiled : s.store.IsFiled)
    (hid : KeyId.ofJson id.toJson = id)
    (hkept : s.store.get? ((Key.root kind id).withNamespace q.ns) = some e) :
    (q.find (FilterValue.ofId id) [] s).1 = .ok (some (Record.ofEntity e)) := by
  have hliteral : (FilterValue.ofId id).toKeyLiteral kind = ⟨kind, id⟩ := by
    rw [FilterValue.ofId, FilterValue.toKeyLiteral, hid]
  have hfields : (q.withColumns []).projections = [] := by
    rw [withColumns_nil]
    exact hprojections
  have hfound : ∀ other, other ∈ q.found kind [] (.ofId id) [] s.store ↔ other = e := by
    intro other
    rw [mem_found, Clause.lookupHolds_nil, hliteral, hfields,
      ← hfiled.mem_shelf_root_iff hkept other]
    exact and_congr_right fun _ => and_iff_right rfl
  have hreadable : (q.compiledLookup kind [] (.ofId id) []).isReadable = true := by
    have hcount : (q.compiledLookup kind [] (.ofId id) []).query.offset = none := hoffset
    rw [CompiledQuery.isReadable, hcount]
    rfl
  refine find_eq_ok_iff_answered.2 ⟨kind, [], hkind, by rw [hclauses]; rfl, hup, hreadable, ?_⟩
  rw [answered, hoffset, Option.map_none, Option.getD_none, List.drop_zero,
    head?_eq_some_of_mem_iff hfound, hfields]
  rfl

end Query

/-! ## The result -/

/-- An entity is read back if the look-up of its id answers with its properties, while the store
answers, and the store has it with them and with the names that are not indexed. -/
structure MemoryStore.ReadsBack (store : MemoryStore) (ns : Option String) (kind : String)
    (id : KeyId) (properties : Properties) (excluded : List String) : Prop where
  found : ∀ (q : Query) journal, q.kind = some kind → q.ns = ns → q.clauses = [] →
    q.projections = [] → q.offset = none → store.isUnavailable = false →
      (q.find (.ofId id) [] ⟨store, journal⟩).1 = .ok (some ⟨properties⟩)
  kept : ∃ e, store.get? ((Key.root kind id).withNamespace ns) = some e ∧
    e.properties = properties ∧ ∀ name, name ∈ e.excluded ↔ name ∈ excluded

/-- An entity that is kept under a number is read back. -/
theorem MemoryStore.IsFiled.readsBack {store : MemoryStore} (hfiled : store.IsFiled)
    {ns : Option String} {kind : String} {n : Int64} {properties : Properties}
    {excluded : List String}
    (hkept : store.get? ((Key.root kind (.number n)).withNamespace ns) =
      some (Entity.create ((Key.root kind (.number n)).withNamespace ns) properties excluded)) :
    store.ReadsBack ns kind (.number n) properties excluded := by
  have hid := KeyId.ofJson_toJson_number n
  constructor
  · rintro q journal hkind rfl hclauses hprojections hoffset hup
    exact Query.find_of_stored (s := ⟨store, journal⟩) hkind hclauses hprojections hoffset hup
      hfiled hid hkept
  · exact ⟨_, hkept, rfl, fun name => mem_ascendingNames⟩

/-- An entity that is inserted while its partition has numbers left is read back from then on,
whatever is done to the store. -/
theorem Query.readsBack_of_insertGetId {q : Query} {kind : String} {s : Session MemoryStore}
    (properties : Properties) (hkind : q.kind = some kind)
    (hreach : s.store.ReachableWithin (q.ns, kind)) (hup : s.store.isUnavailable = false)
    (hsmall : (s.store.sequence (q.ns, kind)).toInt < 9223372036854775807) :
    ∃ id s', q.insertGetId properties s = (.ok id, s') ∧
      ∀ actions, (run actions s'.store).ReadsBack q.ns kind id properties q.excluded := by
  obtain ⟨s', hinsert, hfiled, hkept⟩ :=
    Session.insertGetId_eq_ok properties q.excluded hreach.reachable.isFiled hreach.isAhead hup
      hsmall
  refine ⟨.number (s.store.sequence (q.ns, kind) + 1), s', ?_, ?_⟩
  · rw [insertGetId, hkind]
    exact hinsert
  · intro actions
    refine (hfiled.run actions).readsBack ?_
    exact entities_get?_run hkept actions

theorem MemoryStore.reachableWithin_twoWidgets (partition : Key.Partition) :
    twoWidgets.ReachableWithin partition :=
  ((reachableWithin_empty partition).step (not_overflows_insert _ _ _)).step
    (not_overflows_insert _ _ _)

/-- An entity of a third property behind two others, with a name that is not indexed. -/
theorem Query.readsBack_of_insertGetId_third :
    twoWidgets.ReachableWithin (none, "Widget") ∧ twoWidgets.isUnavailable = false ∧
      (twoWidgets.sequence (none, "Widget")).toInt < 9223372036854775807 ∧
      ∃ id s', (((Query.empty.ofKind "Widget").exclude ["c"]).insertGetId [("c", .ofInt64 3)]
          ⟨twoWidgets, .empty .info⟩) = (.ok id, s') ∧
        ∀ actions, (run actions s'.store).ReadsBack none "Widget" id [("c", .ofInt64 3)] ["c"] :=
  have hsmall : (twoWidgets.sequence (none, "Widget")).toInt < 9223372036854775807 := by decide
  ⟨reachableWithin_twoWidgets _, rfl, hsmall,
    readsBack_of_insertGetId (q := (Query.empty.ofKind "Widget").exclude ["c"])
      (s := ⟨twoWidgets, .empty .info⟩) [("c", .ofInt64 3)] rfl (reachableWithin_twoWidgets _) rfl
      hsmall⟩

end EntityQuery
