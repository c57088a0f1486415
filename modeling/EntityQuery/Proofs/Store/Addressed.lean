import EntityQuery.Proofs.Store.Run

/-!
# Entities under addresses

A store in memory keeps an entity at the address of its key.  An address holds the ids on
the path of a key but not the kinds of its ancestors, so keys that differ only in these
kinds are one key to the store.

* Keys.  `Key.SameIds` is that two keys have the same partition and the same ids.
  `Key.SameIds.address?_eq` and `Key.sameIds_of_address?` say that this is to have the same
  address, and `Key.SameIds.eq_iff` what more makes two keys equal.
* The store.  `MemoryStore.IsFiled.get?_eq_some_iff` says what is found under a key, and
  `MemoryStore.insert_answer` what an insertion is answered.
* The result.  `MemoryStore.keyed_up_to_ancestor_kinds`.
-/

namespace EntityQuery

namespace Key

/-- Two keys have the same namespace, the same kind and the same ids on their paths.  The kinds
of their ancestors may differ. -/
structure SameIds (key other : Key) : Prop where
  partition : key.partition = other.partition
  ids : key.path.map PathElement.id = other.path.map PathElement.id

/-- The ids of a path are there if every element has one. -/
theorem mapM_id_eq_some_iff {path : List PathElement} {ids : List KeyId} :
    path.mapM PathElement.id = some ids ↔ path.map PathElement.id = ids.map some := by
  induction path generalizing ids with
  | nil => cases ids <;> simp
  | cons element path ih =>
    rw [List.mapM_cons, List.map_cons]
    cases hid : element.id with
    | none => cases ids <;> simp
    | some id =>
      cases ids with
      | nil => cases hpath : path.mapM PathElement.id <;> simp
      | cons first rest =>
        rw [List.map_cons, List.cons.injEq, Option.some.injEq, ← ih]
        cases path.mapM PathElement.id <;> simp

theorem address?_eq_some_iff {key : Key} {address : Address} :
    key.address? = some address ↔
      key.partition = address.1 ∧ key.path.map PathElement.id = address.2.map some := by
  rw [← mapM_id_eq_some_iff, address?, Option.map_eq_some_iff]
  constructor
  · rintro ⟨ids, hids, rfl⟩
    exact ⟨rfl, hids⟩
  · rintro ⟨hpartition, hids⟩
    exact ⟨address.2, hids, Prod.ext hpartition rfl⟩

theorem SameIds.address?_eq {key other : Key} (h : key.SameIds other) {address : Address}
    (haddress : key.address? = some address) : other.address? = some address := by
  rw [address?_eq_some_iff] at haddress ⊢
  rw [← h.partition, ← h.ids]
  exact haddress

theorem sameIds_of_address? {key other : Key} {address : Address}
    (h : key.address? = some address) (hother : other.address? = some address) :
    key.SameIds other := by
  rw [address?_eq_some_iff] at h hother
  exact ⟨h.1.trans hother.1.symm, h.2.trans hother.2.symm⟩

/-- Elements with the same ids and the same kinds are the same. -/
theorem elements_eq {elements others : List PathElement}
    (hids : elements.map PathElement.id = others.map PathElement.id)
    (hkinds : elements.map PathElement.kind = others.map PathElement.kind) :
    elements = others := by
  induction elements generalizing others with
  | nil => cases others <;> simp_all
  | cons element elements ih =>
    cases others with
    | nil => simp at hids
    | cons other others =>
      obtain ⟨hid, hids⟩ := List.cons.inj hids
      obtain ⟨hkind, hkinds⟩ := List.cons.inj hkinds
      have hrest := ih hids hkinds
      have hfirst : element = other := by
        obtain ⟨kind, id⟩ := element
        cases hid
        cases hkind
        rfl
      rw [hfirst, hrest]

/-- Keys with the same ids are equal if the kinds of their ancestors are. -/
theorem SameIds.eq_iff {key other : Key} (h : key.SameIds other) :
    key = other ↔ key.ancestors.map PathElement.kind = other.ancestors.map PathElement.kind := by
  constructor
  · intro heq
    rw [heq]
  · intro hkinds
    have hids := h.ids
    rw [path, path, List.map_append, List.map_append] at hids
    obtain ⟨hancestors, hlast⟩ := List.append_inj' hids rfl
    have heq := elements_eq hancestors hkinds
    have hpartition := h.partition
    obtain ⟨ns, ancestors, ⟨kind, id⟩⟩ := key
    cases heq
    cases hpartition
    cases hlast
    rfl

end Key

namespace MemoryStore

/-- The store keeps the entity. -/
def Keeps (store : MemoryStore) (e : Entity) : Prop :=
  ∃ address, store.entities.get? address = some e

/-- A look-up by key finds the entity that is kept under the same ids. -/
theorem IsFiled.get?_eq_some_iff {store : MemoryStore} (h : store.IsFiled) {key : Key}
    {e : Entity} :
    store.get? key = some e ↔ store.Keeps e ∧ e.key.SameIds key := by
  constructor
  · intro hget
    obtain ⟨address, haddress, hkept⟩ := Option.bind_eq_some_iff.1 hget
    exact ⟨⟨address, hkept⟩, Key.sameIds_of_address? (h.address hkept) haddress⟩
  · rintro ⟨⟨address, hkept⟩, hsame⟩
    rw [get?, hsame.address?_eq (h.address hkept)]
    exact hkept

/-- An insertion under a complete key is refused if there is an entity under the key, and succeeds
otherwise. -/
theorem insert_answer {store : MemoryStore} {e : Entity} (hup : store.isUnavailable = false)
    (hcomplete : e.key.address?.isSome = true) :
    (store.insert e).1 =
      if (store.get? e.key).isSome then .error (.alreadyExists e.key.text) else .ok e.key := by
  rcases insert_cases e store with ⟨-, hdown⟩ | ⟨-, -, hnone⟩ | ⟨address, haddress, -, hcases⟩
  · rw [hup] at hdown
    cases hdown
  · rw [hnone] at hcomplete
    cases hcomplete
  · have hget : store.get? e.key = store.entities.get? address := by
      rw [get?, haddress, Option.bind_some]
    rcases hcases with ⟨old, hold, hinsert⟩ | ⟨hnone, hinsert⟩
    · rw [hinsert, hget, hold]
      rfl
    · rw [hinsert, hget, hnone]
      rfl

/-- The entity under a key is the one that is kept with the same ids, and has the key itself if
and only if the kinds of the ancestors are the same as well.  An insertion is refused if and only
if an entity with the same ids is kept. -/
theorem keyed_up_to_ancestor_kinds {store : MemoryStore} (h : store.Reachable) :
    (∀ key e, store.get? key = some e ↔ store.Keeps e ∧ e.key.SameIds key) ∧
    (∀ key e, store.get? key = some e →
      (e.key = key ↔
        e.key.ancestors.map PathElement.kind = key.ancestors.map PathElement.kind)) ∧
    ∀ e, store.isUnavailable = false → e.key.address?.isSome = true →
      ((store.insert e).1 = .error (.alreadyExists e.key.text) ↔
        ∃ kept, store.Keeps kept ∧ kept.key.SameIds e.key) ∧
      ((store.insert e).1 = .ok e.key ↔
        ¬∃ kept, store.Keeps kept ∧ kept.key.SameIds e.key) := by
  have hfiled := h.isFiled
  refine ⟨fun key e => hfiled.get?_eq_some_iff, fun key e hget => ?_, fun e hup hcomplete => ?_⟩
  · exact (hfiled.get?_eq_some_iff.1 hget).2.eq_iff
  · have hexists : (store.get? e.key).isSome = true ↔
        ∃ kept, store.Keeps kept ∧ kept.key.SameIds e.key := by
      rw [Option.isSome_iff_exists]
      exact exists_congr fun kept => hfiled.get?_eq_some_iff
    rw [insert_answer hup hcomplete, ← hexists]
    cases (store.get? e.key).isSome <;> simp

/-- The key of a note of an author. -/
def authorNote : Key :=
  ⟨none, [⟨"Author", some (.number 1)⟩], ⟨"Note", some (.number 2)⟩⟩

/-- The key of a note of a reader, with the ids of that of the author. -/
def readerNote : Key :=
  ⟨none, [⟨"Reader", some (.number 1)⟩], ⟨"Note", some (.number 2)⟩⟩

/-- The store that keeps the note of the author. -/
def authored : MemoryStore := run [.insert ⟨authorNote, [], []⟩] empty

/-- The note of the author is found under the key of the reader, and keeps the note of the reader
from being inserted. -/
theorem keyed_up_to_ancestor_kinds_confused :
    authored.Reachable ∧ authorNote ≠ readerNote ∧
      authored.get? readerNote = some ⟨authorNote, [], []⟩ ∧
      (authored.insert ⟨readerNote, [], []⟩).1 = .error (.alreadyExists readerNote.text) := by
  have hreach : authored.Reachable := ⟨_, rfl⟩
  have hkeeps : authored.Keeps ⟨authorNote, [], []⟩ :=
    ⟨((none, "Note"), [.number 1, .number 2]), rfl⟩
  have hsame : authorNote.SameIds readerNote := ⟨rfl, rfl⟩
  obtain ⟨hget, -, hinsert⟩ := keyed_up_to_ancestor_kinds hreach
  exact ⟨hreach, by decide, (hget readerNote _).2 ⟨hkeeps, hsame⟩,
    (hinsert ⟨readerNote, [], []⟩ rfl rfl).1.2 ⟨_, hkeeps, hsame⟩⟩

end MemoryStore

end EntityQuery
