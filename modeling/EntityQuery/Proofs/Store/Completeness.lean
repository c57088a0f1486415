import EntityQuery.Proofs.Key.Building
import EntityQuery.Proofs.Store.Addressed

/-!
# Complete keys and stored keys

Whether a key is complete is decided by its last element, and that is the element to which the
store gives an id.  To keep an entity the store needs the ids of all elements.  The two agree on
keys whose ancestors have ids; only keys from JSON have others.

* Keys.  `Key.address?_eq_none_iff`: a key has no address if it is incomplete or lacks the id of an
  ancestor.
* Built keys.  `Key.lacksAncestorId_changes`: changes keep the ancestors that lack ids, and add
  none.
* Requests.  `MemoryStore.reportsIncomplete_insert_iff` and `MemoryStore.allocate_complete`: which
  keys an insertion reports, and what a key is like after it was given an id.
* The result.  `MemoryStore.allocated_key_reported_iff`.
-/

namespace EntityQuery

namespace Key

/-- An ancestor in the path has no id. -/
def LacksAncestorId (key : Key) : Prop := ∃ ancestor ∈ key.ancestors, ancestor.id = none

/-- The ids of a path are not there if an element lacks its own. -/
theorem mapM_id_eq_none_iff {path : List PathElement} :
    path.mapM PathElement.id = none ↔ ∃ element ∈ path, element.id = none := by
  induction path with
  | nil => simp
  | cons element path ih =>
    rw [List.mapM_cons]
    cases hid : element.id with
    | none => simp [hid]
    | some id =>
      have hpath : (∃ e ∈ element :: path, e.id = none) ↔ ∃ e ∈ path, e.id = none := by simp [hid]
      rw [hpath, ← ih]
      cases path.mapM PathElement.id <;> simp

theorem address?_eq_none_iff {key : Key} :
    key.address? = none ↔ key.isIncomplete = true ∨ key.LacksAncestorId := by
  have hpath : (∃ element ∈ key.path, element.id = none) ↔
      key.LacksAncestorId ∨ key.last.id = none := by
    simp [path, LacksAncestorId, or_and_right, exists_or]
  rw [address?, Option.map_eq_none_iff, ids?, mapM_id_eq_none_iff, hpath, or_comm, isIncomplete,
    Option.isNone_iff_eq_none, id]

/-! ## Built keys -/

/-- Ancestors come with ids, and the other changes leave them alone. -/
theorem lacksAncestorId_change {key : Key} {change : Change} :
    (key.change change).LacksAncestorId ↔ key.LacksAncestorId := by
  cases change with
  | withNamespace | withId => rfl
  | withAncestor kind id => simp [LacksAncestorId, Key.change, withAncestor]

theorem lacksAncestorId_changes {changes : List Change} {key : Key} :
    (changes.foldl change key).LacksAncestorId ↔ key.LacksAncestorId := by
  induction changes generalizing key with
  | nil => rfl
  | cons change changes ih => rw [List.foldl_cons, ih, lacksAncestorId_change]

/-- An element before the last of a path in JSON has no id. -/
def Origin.LacksAncestorId (origin : Origin) : Prop :=
  ∃ v ns path, origin = .written v ∧ readParts? v = some (ns, path) ∧
    ∃ ancestor ∈ path.dropLast, ancestor.id = none

theorem lacksAncestorId_origin {origin : Origin} {key : Key} (h : origin.key = .ok key) :
    key.LacksAncestorId ↔ origin.LacksAncestorId := by
  cases origin with
  | incomplete | root =>
    cases h
    simp [LacksAncestorId, Origin.LacksAncestorId, incomplete, root]
  | written v =>
    have hparts := readParts?_of_ofJson h
    have hancestors : (∃ ancestor ∈ key.path.dropLast, ancestor.id = none) ↔
        key.LacksAncestorId := by
      rw [path, List.dropLast_concat, LacksAncestorId]
    constructor
    · intro hlacks
      exact ⟨v, key.ns, key.path, rfl, hparts, hancestors.2 hlacks⟩
    · rintro ⟨_, _, _, hv, hread, hlacks⟩
      cases hv
      rw [hparts] at hread
      cases hread
      exact hancestors.1 hlacks

/-- Of the keys that are built only those lack the id of an ancestor whose JSON does. -/
theorem lacksAncestorId_build {origin : Origin} {changes : List Change} {key : Key}
    (h : build origin changes = .ok key) : key.LacksAncestorId ↔ origin.LacksAncestorId := by
  rw [build] at h
  cases horigin : origin.key with
  | error fault =>
    rw [horigin] at h
    cases h
  | ok first =>
    rw [horigin] at h
    cases h
    rw [lacksAncestorId_changes, lacksAncestorId_origin horigin]

end Key

namespace MemoryStore

/-! ## Requests -/

/-- An insertion is answered that its key is incomplete. -/
def ReportsIncomplete (answer : Except StoreError Key) : Prop :=
  ∃ text, answer = .error (.incompleteKey text)

/-- An insertion reports the keys that have no address. -/
theorem reportsIncomplete_insert_iff {store : MemoryStore} (hup : store.isUnavailable = false)
    (e : Entity) :
    ReportsIncomplete (store.insert e).1 ↔ e.key.isIncomplete = true ∨ e.key.LacksAncestorId := by
  rw [← Key.address?_eq_none_iff]
  rcases insert_cases e store with
    ⟨-, hdown⟩ | ⟨h, -, hnone⟩ | ⟨address, haddress, -, ⟨old, -, h⟩ | ⟨-, h⟩⟩
  · rw [hup] at hdown
    cases hdown
  · simp [ReportsIncomplete, h, hnone]
  · simp [ReportsIncomplete, h, haddress]
  · simp [ReportsIncomplete, h, haddress]

/-- A key that was given an id is complete, and has the ancestors that it had. -/
theorem allocate_complete {store : MemoryStore} (hup : store.isUnavailable = false) (key : Key) :
    ∃ allocated, (store.allocate key).1 = .ok allocated ∧ allocated.isIncomplete = false ∧
      allocated.ancestors = key.ancestors := by
  rcases allocate_cases key store with ⟨-, hdown⟩ | ⟨h, -, hcomplete⟩ | ⟨h, -, -⟩
  · rw [hup] at hdown
    cases hdown
  · exact ⟨key, by rw [h], hcomplete, rfl⟩
  · exact ⟨key.withId (.number (store.sequence key.partition + 1)), by rw [h], rfl, rfl⟩

/-! ## The result -/

/-- An insertion reports the keys that are incomplete, and those that lack the id of an ancestor.
A key that was given an id is complete, and an insertion under it is reported all the same if and
only if the key comes from JSON in which an ancestor has no id. -/
theorem allocated_key_reported_iff {origin : Key.Origin} {changes : List Key.Change} {key : Key}
    (h : Key.build origin changes = .ok key) {store : MemoryStore}
    (hup : store.isUnavailable = false) :
    (∀ e : Entity, ReportsIncomplete (store.insert e).1 ↔
      e.key.isIncomplete = true ∨ e.key.LacksAncestorId) ∧
    ∃ allocated, (store.allocate key).1 = .ok allocated ∧ allocated.isIncomplete = false ∧
      ∀ later : MemoryStore, later.isUnavailable = false → ∀ e : Entity, e.key = allocated →
        (ReportsIncomplete (later.insert e).1 ↔ origin.LacksAncestorId) := by
  obtain ⟨allocated, hallocated, hcomplete, hancestors⟩ := allocate_complete hup key
  refine ⟨fun e => reportsIncomplete_insert_iff hup e, allocated, hallocated, hcomplete, ?_⟩
  rintro later hlater e rfl
  have hsame : e.key.LacksAncestorId ↔ key.LacksAncestorId := by
    rw [Key.LacksAncestorId, hancestors, Key.LacksAncestorId]
  rw [reportsIncomplete_insert_iff hlater, hcomplete, or_iff_right Bool.false_ne_true, hsame,
    Key.lacksAncestorId_build h]

/-- The JSON of a widget without an id, on a shelf without an id. -/
def unnumberedShelf : Json :=
  .object [("path", .array [.object [("id", .null), ("kind", .string "Shelf")],
    .object [("kind", .string "Widget")]])]

/-- The key of the widget with an id, or without one. -/
def shelfWidget (id : Option KeyId) : Key := ⟨none, [⟨"Shelf", none⟩], ⟨"Widget", id⟩⟩

/-- The empty store gives the widget an id, and refuses to keep it under the complete key. -/
theorem allocated_key_reported_iff_shelved :
    Key.build (.written unnumberedShelf) [] = .ok (shelfWidget none) ∧ empty.Reachable ∧
      (empty.allocate (shelfWidget none)).1 = .ok (shelfWidget (some (.number 1))) ∧
      (shelfWidget (some (.number 1))).isIncomplete = false ∧
      ∀ later : MemoryStore, later.isUnavailable = false →
        ReportsIncomplete (later.insert ⟨shelfWidget (some (.number 1)), [], []⟩).1 := by
  have hbuilt : Key.build (.written unnumberedShelf) [] = .ok (shelfWidget none) := rfl
  have hgiven : (empty.allocate (shelfWidget none)).1 = .ok (shelfWidget (some (.number 1))) := rfl
  have hlacks : Key.Origin.LacksAncestorId (.written unnumberedShelf) :=
    ⟨unnumberedShelf, none, (shelfWidget none).path, rfl, rfl, ⟨"Shelf", none⟩, by decide, rfl⟩
  have hup : empty.isUnavailable = false := rfl
  obtain ⟨-, allocated, hallocated, hcomplete, hreports⟩ := allocated_key_reported_iff hbuilt hup
  obtain rfl : shelfWidget (some (.number 1)) = allocated :=
    Except.ok.inj (hgiven.symm.trans hallocated)
  exact ⟨hbuilt, ⟨[], rfl⟩, hgiven, hcomplete, fun later hlater =>
    (hreports later hlater _ rfl).2 hlacks⟩

end MemoryStore

end EntityQuery
