import EntityQuery.Proofs.Session.Operations
import EntityQuery.Proofs.Session.ReadYourWrites

/-!
# Insertions and their journal

An insertion asks a store for an id and then to keep the entity.  The store may give any answer:
a failure, a key without an id, or the key of something else.

`Session.InsertsOnce` puts the calls of an insertion, its answer and its events together.
`Inserts.insertsOnce` says so of each way in which an insertion goes, and
`Session.insertGetId_insertsOnce` of the insertion of a session.
-/

namespace EntityQuery

variable {σ : Type} [EntityStore σ]

/-! ## Calls, answer and events -/

/-- What an insertion on a watched store asks and records, and how that goes with its answer. -/
structure Session.InsertsOnce (s : Session (Recorded σ)) (kind : String) (ns : Option String)
    (properties : Properties) (excluded : List String)
    (outcome : Except QueryError KeyId × Session (Recorded σ)) (allocated : Except StoreError Key)
    (insertion : Option (Entity × Except StoreError Key)) : Prop where
  /-- An id is asked for once, for the key of one element, and no more than one entity is then
  inserted. -/
  calls_eq : outcome.2.store.calls =
    s.store.calls ++ .allocate ⟨ns, [], ⟨kind, none⟩⟩ allocated ::
      insertion.toList.map fun (entity, reply) => .insert entity reply
  /-- An entity is inserted if and only if the store gave a key with an id. -/
  isSome_iff : insertion.isSome = true ↔ ∃ key id, allocated = .ok key ∧ key.id = some id
  /-- The entity has this key, and is what was given. -/
  entity_eq : ∀ entity reply, insertion = some (entity, reply) →
    allocated = .ok entity.key ∧ entity.properties = properties ∧
      ∀ name, name ∈ entity.excluded ↔ name ∈ excluded
  /-- The answer is the id of this key if and only if the insertion succeeds. -/
  ok_iff : ∀ id, outcome.1 = .ok id ↔
    ∃ entity kept, insertion = some (entity, .ok kept) ∧ entity.key.id = some id
  /-- A success is recorded by two events. -/
  entries_of_ok : Severity.info.reaches s.journal.threshold = true →
    ∀ id, outcome.1 = .ok id →
      outcome.2.journal.entries =
        s.journal.entries ++ [.keyAllocated kind id, .entityInserted kind id]
  /-- A failure is recorded by one event, behind that of the id if one was given out. -/
  entries_of_error : Severity.info.reaches s.journal.threshold = true →
    ∀ e, outcome.1 = .error e →
      (insertion = none ∧
        outcome.2.journal.entries = s.journal.entries ++ [.writeFailed kind e]) ∨
      ∃ entity source id, insertion = some (entity, .error source) ∧ entity.key.id = some id ∧
        e = .storeWrite source ∧
        outcome.2.journal.entries =
          s.journal.entries ++ [.keyAllocated kind id, .writeFailed kind e]

theorem Inserts.insertsOnce {s : Session (Recorded σ)} {kind : String} {ns : Option String}
    {properties : Properties} {excluded : List String} {answer : Except QueryError KeyId}
    {store' : σ} {calls : List StoreCall}
    (h : Inserts ((Key.incomplete kind).withNamespace ns)
      (fun key => .create key properties excluded) s.store.store answer store' calls) :
    ∃ allocated insertion, s.InsertsOnce kind ns properties excluded
      (answer, ⟨⟨store', s.store.calls ++ calls⟩,
        s.journal.recordAll (calls.filterMap (StoreCall.event? kind))⟩) allocated insertion := by
  have hentries (hthreshold : Severity.info.reaches s.journal.threshold = true) :=
    Journal.entries_recordAll_events hthreshold kind calls
  cases h with
  | @refused e =>
    refine ⟨.error e, none, rfl, by simp, by simp, by simp, by simp, ?_⟩
    intro hthreshold e' he
    cases he
    exact .inl ⟨rfl, hentries hthreshold⟩
  | @incomplete key _ _ hid =>
    refine ⟨.ok key, none, rfl, by simp [hid], by simp, by simp, by simp, ?_⟩
    intro hthreshold e' he
    cases he
    refine .inl ⟨rfl, (hentries hthreshold).trans ?_⟩
    simp [StoreCall.event?, hid]
  | @failed key id e _ _ _ hid =>
    refine ⟨.ok key, some (.create key properties excluded, .error e), rfl, by simp [hid], ?_,
      by simp, by simp, ?_⟩
    · intro entity reply heq
      cases heq
      exact ⟨rfl, rfl, fun name => mem_ascendingNames⟩
    · intro hthreshold e' he
      cases he
      refine .inr ⟨_, e, id, rfl, hid, rfl, (hentries hthreshold).trans ?_⟩
      simp [StoreCall.event?, hid]
  | @kept key kept id _ _ _ hid =>
    have hown : (Entity.create key properties excluded).key.id = some id := hid
    refine ⟨.ok key, some (.create key properties excluded, .ok kept), rfl, by simp [hid], ?_, ?_,
      ?_, by simp⟩
    · intro entity reply heq
      cases heq
      exact ⟨rfl, rfl, fun name => mem_ascendingNames⟩
    · intro id'
      constructor
      · intro hok
        cases hok
        exact ⟨_, kept, rfl, hid⟩
      · rintro ⟨entity, kept', heq, hid'⟩
        cases heq
        cases hid.symm.trans hid'
        rfl
    · intro hthreshold id' hok
      cases hok
      refine (hentries hthreshold).trans ?_
      simp [StoreCall.event?, hid, hown]

/-! ## The result -/

/-- An insertion on any store, whatever it answers: an id is asked for, and an entity is inserted
under a key with an id alone.  A query inserts in the same way, and to be watched changes nothing
for a store. -/
theorem Session.insertGetId_insertsOnce (s : Session (Recorded σ)) (kind : String)
    (ns : Option String) (properties : Properties) (excluded : List String) :
    (∃ allocated insertion, s.InsertsOnce kind ns properties excluded
        (s.insertGetId kind ns properties excluded) allocated insertion) ∧
      (∀ q : Query, q.kind = some kind → q.ns = ns → q.excluded = excluded →
        q.insertGetId properties s = s.insertGetId kind ns properties excluded) ∧
      (s.insertGetId kind ns properties excluded).1 =
        (s.unwatched.insertGetId kind ns properties excluded).1 ∧
      (s.insertGetId kind ns properties excluded).2.unwatched =
        (s.unwatched.insertGetId kind ns properties excluded).2 := by
  obtain ⟨answer, store', calls, h⟩ := Inserts.exists_inserts
    ((Key.incomplete kind).withNamespace ns) (fun key => .create key properties excluded)
    s.store.store
  have hwatched := (h.watched s.store.calls).insertGetId_eq (s := s)
  have hunwatched := h.insertGetId_eq (s := s.unwatched)
  refine ⟨?_, ?_, ?_⟩
  · rw [hwatched]
    exact h.insertsOnce
  · rintro q hkind rfl rfl
    rw [Query.insertGetId, hkind]
  · rw [hwatched, hunwatched]
    exact ⟨rfl, rfl⟩

/-- A store that gives out an id and refuses the entity. -/
def ScriptedStore.refusing : ScriptedStore :=
  .ofScript ⟨.ok (some (.number 7)), some (.backend "disk full"), none, []⟩

/-- The refused entity is recorded by one error, behind the id that it would have had. -/
theorem Session.insertGetId_insertsOnce_refused :
    let s : Session (Recorded ScriptedStore) := ⟨⟨.refusing, []⟩, .empty .info⟩
    let e : QueryError := .storeWrite (.backend "disk full")
    (s.insertGetId "Widget" none [] []).1 = .error e ∧
      (s.insertGetId "Widget" none [] []).2.journal.entries =
        [.keyAllocated "Widget" (.number 7), .writeFailed "Widget" e] := by
  intro s e
  have hfailed : (s.insertGetId "Widget" none [] []).1 = .error e := rfl
  obtain ⟨⟨allocated, insertion, h⟩, -⟩ := insertGetId_insertsOnce s "Widget" none [] []
  have hasked : allocated = .ok (.root "Widget" (.number 7)) := by
    have hcalls := h.calls_eq
    injection hcalls with hallocate
    injection hallocate with _ hgiven
    exact hgiven.symm
  obtain ⟨hnone, -⟩ | ⟨entity, source, id, hinsertion, hid, -, hentries⟩ :=
    h.entries_of_error rfl e hfailed
  · have hsome := h.isSome_iff.2 ⟨_, _, hasked, rfl⟩
    rw [hnone] at hsome
    cases hsome
  · obtain ⟨hkey, -⟩ := h.entity_eq _ _ hinsertion
    rw [hasked] at hkey
    injection hkey with hkey
    rw [← hkey] at hid
    injection hid with hid
    rw [hentries, ← hid]
    exact ⟨hfailed, rfl⟩

end EntityQuery
