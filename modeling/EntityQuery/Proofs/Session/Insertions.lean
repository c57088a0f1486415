import EntityQuery.Proofs.Session.Journals
import EntityQuery.Proofs.Session.Requests

/-!
# How insertions go

The ways in which an insertion goes on a store of which nothing is known, each with the calls
that the store receives.  There is one way for each place where it may fail.

* One entity.  `Inserts`; `Inserts.insertGetId_eq` says that the insertion of a session goes this
  way and what it records, and `Inserts.error_iff` that it fails as its calls do.
* Many entities.  `InsertsAll` goes on up to the first that fails, and has the same lemmas.
* Watched stores.  `Inserts.watched` and `InsertsAll.watched`: to be watched changes nothing.
-/

namespace EntityQuery

variable {σ : Type} [EntityStore σ]

/-! ## Calls -/

namespace StoreCall

/-- Whether the call submits a query. -/
def isQuery : StoreCall → Bool
  | .query _ _ => true
  | .allocate _ _ | .insert _ _ => false

/-- The failure that the answer to a call is.  A key without an id is one. -/
def refusal? : StoreCall → Option StoreError
  | .allocate _ (.error e) | .insert _ (.error e) | .query _ (.error e) => some e
  | .allocate _ (.ok key) =>
    match key.id with
    | none => some (.incompleteKey key.text)
    | some _ => none
  | .insert _ (.ok _) | .query _ (.ok _) => none

end StoreCall

/-! ## One entity -/

/-- How the insertion of an entity goes: what the store is asked in turn, and what comes of
it. -/
inductive Inserts (asked : Key) (make : Key → Entity) (store : σ) :
    Except QueryError KeyId → σ → List StoreCall → Prop
  | refused {e : StoreError} {store₁ : σ}
      (hallocate : EntityStore.allocate asked store = (.error e, store₁)) :
      Inserts asked make store (.error (.storeWrite e)) store₁ [.allocate asked (.error e)]
  | incomplete {key : Key} {store₁ : σ}
      (hallocate : EntityStore.allocate asked store = (.ok key, store₁)) (hid : key.id = none) :
      Inserts asked make store (.error (.storeWrite (.incompleteKey key.text))) store₁
        [.allocate asked (.ok key)]
  | failed {key : Key} {id : KeyId} {e : StoreError} {store₁ store₂ : σ}
      (hallocate : EntityStore.allocate asked store = (.ok key, store₁)) (hid : key.id = some id)
      (hinsert : EntityStore.insert (make key) store₁ = (.error e, store₂)) :
      Inserts asked make store (.error (.storeWrite e)) store₂
        [.allocate asked (.ok key), .insert (make key) (.error e)]
  | kept {key kept : Key} {id : KeyId} {store₁ store₂ : σ}
      (hallocate : EntityStore.allocate asked store = (.ok key, store₁)) (hid : key.id = some id)
      (hinsert : EntityStore.insert (make key) store₁ = (.ok kept, store₂)) :
      Inserts asked make store (.ok id) store₂
        [.allocate asked (.ok key), .insert (make key) (.ok kept)]

namespace Inserts

variable {asked : Key} {make : Key → Entity} {store store' : σ} {answer : Except QueryError KeyId}
  {calls : List StoreCall}

/-- An insertion goes in one of the ways. -/
theorem exists_inserts (asked : Key) (make : Key → Entity) (store : σ) :
    ∃ answer store' calls, Inserts asked make store answer store' calls := by
  cases hallocate : EntityStore.allocate asked store with
  | mk allocated store₁ =>
    cases allocated with
    | error e => exact ⟨_, _, _, .refused hallocate⟩
    | ok key =>
      cases hid : key.id with
      | none => exact ⟨_, _, _, .incomplete hallocate hid⟩
      | some id =>
        cases hinsert : EntityStore.insert (make key) store₁ with
        | mk inserted store₂ =>
          cases inserted with
          | error e => exact ⟨_, _, _, .failed hallocate hid hinsert⟩
          | ok kept => exact ⟨_, _, _, .kept hallocate hid hinsert⟩

/-- A store that is watched goes the same way, and keeps the calls. -/
theorem watched (h : Inserts asked make store answer store' calls) (earlier : List StoreCall) :
    Inserts asked make (⟨store, earlier⟩ : Recorded σ) answer ⟨store', earlier ++ calls⟩ calls := by
  cases h with
  | refused hallocate => exact .refused (Recorded.allocate_eq hallocate)
  | incomplete hallocate hid => exact .incomplete (Recorded.allocate_eq hallocate) hid
  | failed hallocate hid hinsert =>
    refine .failed (Recorded.allocate_eq hallocate) hid ?_
    rw [Recorded.insert_eq hinsert, List.append_assoc]
    rfl
  | kept hallocate hid hinsert =>
    refine .kept (Recorded.allocate_eq hallocate) hid ?_
    rw [Recorded.insert_eq hinsert, List.append_assoc]
    rfl

theorem isQuery_eq_false (h : Inserts asked make store answer store' calls) :
    ∀ call ∈ calls, call.isQuery = false := by
  cases h <;> simp [StoreCall.isQuery]

/-- An insertion fails as its calls do. -/
theorem error_iff (h : Inserts asked make store answer store' calls) {e : QueryError} :
    answer = .error e ↔
      ∃ source, calls.findSome? StoreCall.refusal? = some source ∧ e = .storeWrite source := by
  cases h with
  | refused => simp [StoreCall.refusal?, eq_comm]
  | incomplete _ hid => simp [StoreCall.refusal?, hid, eq_comm]
  | failed _ hid => simp [StoreCall.refusal?, hid, eq_comm]
  | kept _ hid => simp [StoreCall.refusal?, hid]

/-- The insertion of a session goes this way, and records its calls. -/
theorem insertGetId_eq {s : Session σ} {kind : String} {ns : Option String}
    {properties : Properties} {excluded : List String}
    (h : Inserts ((Key.incomplete kind).withNamespace ns)
      (fun key => .create key properties excluded) s.store answer store' calls) :
    s.insertGetId kind ns properties excluded =
      (answer, ⟨store', s.journal.recordAll (calls.filterMap (StoreCall.event? kind))⟩) := by
  have hasked : ∀ {allocated : Except StoreError Key} {store₁ : σ},
      EntityStore.allocate ((Key.incomplete kind).withNamespace ns) s.store =
        (allocated, store₁) →
      s.allocate ((Key.incomplete kind).withNamespace ns) =
        (allocated, { s with store := store₁ }) := by
    intro allocated store₁ hallocate
    rw [Session.allocate, hallocate]
  cases h with
  | refused hallocate =>
    simp only [Session.insertGetId, hasked hallocate]
    rfl
  | incomplete hallocate hid =>
    simp only [Session.insertGetId, hasked hallocate, hid, List.filterMap_cons,
      StoreCall.event?]
    rfl
  | @failed key id _ _ _ hallocate hid hinsert =>
    simp only [Session.insertGetId, hasked hallocate, hid, Session.logEvent, Session.insert,
      hinsert, List.filterMap_cons, StoreCall.event?]
    rfl
  | @kept key _ id _ _ hallocate hid hinsert =>
    have hown : (Entity.create key properties excluded).key.id = some id := hid
    simp only [Session.insertGetId, hasked hallocate, hid, Session.logEvent, Session.insert,
      hinsert, List.filterMap_cons, StoreCall.event?, hown]
    rfl

end Inserts

/-- If the store gives out a key with an id and keeps the entity under it, the id is returned. -/
theorem Session.insertGetId_eq_ok_of_store {s : Session σ} {kind : String} {ns : Option String}
    {properties : Properties} {excluded : List String} {key kept : Key} {id : KeyId}
    {store₁ store₂ : σ} (hid : key.id = some id)
    (hallocate : EntityStore.allocate ((Key.incomplete kind).withNamespace ns) s.store =
      (.ok key, store₁))
    (hinsert : EntityStore.insert (Entity.create key properties excluded) store₁ =
      (.ok kept, store₂)) :
    ∃ journal, s.insertGetId kind ns properties excluded = (.ok id, ⟨store₂, journal⟩) :=
  ⟨_, (Inserts.kept hallocate hid hinsert).insertGetId_eq⟩

/-! ## Many entities -/

/-- How the insertion of entities in order goes: up to the first that fails. -/
inductive InsertsAll (asked : Key) (make : Properties → Key → Entity) :
    List Properties → σ → Except QueryError (List KeyId) → σ → List StoreCall → Prop
  | nil (store : σ) : InsertsAll asked make [] store (.ok []) store []
  | failed {properties : Properties} {rows : List Properties} {store store₁ : σ} {e : QueryError}
      {calls : List StoreCall}
      (h : Inserts asked (make properties) store (.error e) store₁ calls) :
      InsertsAll asked make (properties :: rows) store (.error e) store₁ calls
  | cons {properties : Properties} {rows : List Properties} {store store₁ store₂ : σ} {id : KeyId}
      {answer : Except QueryError (List KeyId)} {calls more : List StoreCall}
      (h : Inserts asked (make properties) store (.ok id) store₁ calls)
      (hrows : InsertsAll asked make rows store₁ answer store₂ more) :
      InsertsAll asked make (properties :: rows) store (answer.map (id :: ·)) store₂
        (calls ++ more)

namespace InsertsAll

variable {asked : Key} {make : Properties → Key → Entity} {rows : List Properties}
  {store store' : σ} {answer : Except QueryError (List KeyId)} {calls : List StoreCall}

theorem exists_insertsAll (asked : Key) (make : Properties → Key → Entity)
    (rows : List Properties) (store : σ) :
    ∃ answer store' calls, InsertsAll asked make rows store answer store' calls := by
  induction rows generalizing store with
  | nil => exact ⟨_, _, _, .nil store⟩
  | cons properties rows ih =>
    obtain ⟨inserted, store₁, calls, h⟩ := Inserts.exists_inserts asked (make properties) store
    cases inserted with
    | error e => exact ⟨_, _, _, .failed h⟩
    | ok id =>
      obtain ⟨answer, store₂, more, hrows⟩ := ih store₁
      exact ⟨_, _, _, .cons h hrows⟩

theorem watched (h : InsertsAll asked make rows store answer store' calls)
    (earlier : List StoreCall) :
    InsertsAll asked make rows (⟨store, earlier⟩ : Recorded σ) answer ⟨store', earlier ++ calls⟩
      calls := by
  induction h generalizing earlier with
  | nil store =>
    rw [List.append_nil]
    exact .nil _
  | failed h => exact .failed (h.watched earlier)
  | cons h hrows ih =>
    refine .cons (h.watched earlier) ?_
    rw [← List.append_assoc]
    exact ih (earlier ++ _)

theorem isQuery_eq_false (h : InsertsAll asked make rows store answer store' calls) :
    ∀ call ∈ calls, call.isQuery = false := by
  induction h with
  | nil => simp
  | failed h => exact h.isQuery_eq_false
  | cons h hrows ih =>
    exact fun call hmem => (List.mem_append.1 hmem).elim (h.isQuery_eq_false call) (ih call)

/-- The first call that fails ends the insertions, with its failure. -/
theorem error_iff (h : InsertsAll asked make rows store answer store' calls) {e : QueryError} :
    answer = .error e ↔
      ∃ source, calls.findSome? StoreCall.refusal? = some source ∧ e = .storeWrite source := by
  induction h with
  | nil => simp
  | failed h =>
    rw [← h.error_iff]
    simp
  | @cons _ _ _ _ _ _ answer calls more h hrows ih =>
    -- the calls for an entity that was kept hide no failure
    have hnone : calls.findSome? StoreCall.refusal? = none := by
      refine Option.eq_none_iff_forall_not_mem.2 fun source hsource => ?_
      cases h.error_iff.2 ⟨source, hsource, rfl⟩
    rw [List.findSome?_append, hnone, Option.none_or, ← ih]
    cases answer <;> simp [Except.map]

/-- The insertions of a query go this way, and record their calls. -/
theorem insert_eq {q : Query} {kind : String} (hkind : q.kind = some kind)
    (h : InsertsAll ((Key.incomplete kind).withNamespace q.ns)
      (fun properties key => .create key properties q.excluded) rows store answer store' calls)
    (journal : Journal) :
    q.insert rows ⟨store, journal⟩ =
      (answer, ⟨store', journal.recordAll (calls.filterMap (StoreCall.event? kind))⟩) := by
  induction h generalizing journal with
  | nil store => rfl
  | failed h =>
    have hfirst := h.insertGetId_eq (s := ⟨_, journal⟩)
    simp only [Query.insert, Query.insertGetId, hkind, hfirst]
  | @cons _ _ _ _ _ _ answer _ _ h hrows ih =>
    have hfirst := h.insertGetId_eq (s := ⟨_, journal⟩)
    simp only [Query.insert, Query.insertGetId, hkind, hfirst, ih, List.filterMap_append,
      Journal.recordAll_append]
    cases answer <;> rfl

end InsertsAll

end EntityQuery
