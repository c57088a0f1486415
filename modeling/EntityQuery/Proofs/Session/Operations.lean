import EntityQuery.Proofs.Query.Compilation
import EntityQuery.Proofs.Session.Insertions
import EntityQuery.Store.Scripted

/-!
# What operations ask of a store, and how they fail

The operations that end the construction of a query, on a store of which nothing is known: it
may answer what it likes, and a stream may fail at any place.

* Failures.  `StoreCall.failure?` is the failure in the answer to a call or in its stream, and
  `Reports` says that an operation fails with the first of those, or without any call.
* Reading.  `Reading.run_eq` says what becomes of the answer to the one query that is submitted,
  and `Cursor.yields_iff` what a cursor yields.
* Writing.  `Writing.run_eq_insert` says that every operation that writes inserts a list.
* The result.  `Query.operations_report_store` is about the calls of all the operations.
-/

namespace EntityQuery

variable {σ : Type} [EntityStore σ]

/-! ## Failures -/

/-- The first failure in a stream. -/
def EntityStream.failure? (stream : EntityStream) : Option StoreError :=
  stream.findSome? fun
    | .ok _ => none
    | .error e => some e

namespace StoreCall

/-- The failure that the answer to a call is, or the first in its stream. -/
def failure? : StoreCall → Option StoreError
  | .query _ (.ok stream) => stream.failure?
  | call => call.refusal?

end StoreCall

/-- An operation that made some calls fails as they do.  It is rejected if it made none, and
otherwise its error is the first failure of a call. -/
structure Reports {α : Type} (calls : List StoreCall) (failure? : StoreCall → Option StoreError)
    (report : StoreError → QueryError) (answer : Except QueryError α) : Prop where
  rejected_iff : ∀ {e}, answer = .error e → (e.gravity = .reject ↔ calls = [])
  error_iff : calls ≠ [] → ∀ {e}, answer = .error e ↔
    ∃ source, calls.findSome? failure? = some source ∧ e = report source

namespace Reports

variable {α : Type} {calls : List StoreCall} {failure? : StoreCall → Option StoreError}
  {report : StoreError → QueryError} {answer : Except QueryError α}

/-- Without any call there are rejections only. -/
theorem of_rejected (h : ∀ {e}, answer = .error e → e.gravity = .reject) :
    Reports [] failure? report answer where
  rejected_iff herror := ⟨fun _ => rfl, fun _ => h herror⟩
  error_iff hne := absurd rfl hne

theorem of_error_iff (hreport : ∀ source, (report source).gravity = .error)
    (h : ∀ {e}, answer = .error e ↔
      ∃ source, calls.findSome? failure? = some source ∧ e = report source) :
    Reports calls failure? report answer where
  rejected_iff herror := by
    obtain ⟨source, hsource, rfl⟩ := h.1 herror
    constructor
    · intro hreject
      rw [hreport] at hreject
      cases hreject
    · rintro rfl
      cases hsource
  error_iff _ := h

end Reports

/-! ## Reading -/

/-- An operation that reads. -/
inductive Reading where
  | cursor (columns : List String)
  | get (columns : List String)
  | first (columns : List String)
  | find (id : FilterValue) (columns : List String)

/-- What an operation that reads gives. -/
inductive Found where
  | cursor (cursor : Cursor)
  | records (records : List Record)
  | record (record : Option Record)

namespace Cursor

/-- What reading a cursor to its end yields. -/
inductive Yields : Cursor → List (Except QueryError Record) → Prop
  | done {cursor : Cursor} (h : cursor.next? = none) : Yields cursor []
  | next {cursor rest : Cursor} {item : Except QueryError Record}
      {items : List (Except QueryError Record)} (h : cursor.next? = some (item, rest))
      (hrest : Yields rest items) : Yields cursor (item :: items)

/-- What an element of a stream is for the caller. -/
def item : Except StoreError Entity → Except QueryError Record
  | .ok e => .ok (.ofEntity e)
  | .error e => .error (.storeQuery e)

/-- A cursor yields the elements of its stream, failures as they are. -/
theorem yields_iff {stream : EntityStream} {yielded : Nat}
    {items : List (Except QueryError Record)} :
    Yields ⟨stream, yielded⟩ items ↔ items = stream.map item := by
  induction stream generalizing yielded items with
  | nil =>
    constructor
    · rintro (_ | ⟨h, -⟩)
      · rfl
      · cases h
    · rintro rfl
      exact .done rfl
  | cons element stream ih =>
    constructor
    · rintro (h | ⟨h, hrest⟩)
      · cases element <;> cases h
      · cases element with
        | ok e =>
          cases h
          rw [ih.1 hrest]
          rfl
        | error e =>
          cases h
          rw [ih.1 hrest]
          rfl
    · rintro rfl
      cases element with
      | ok e => exact .next rfl (ih.2 rfl)
      | error e => exact .next rfl (ih.2 rfl)

/-- Collecting a stream fails with its first failure, if there is one. -/
theorem collectStream_eq_error_iff {stream : EntityStream} {yielded : Nat} {e : QueryError} :
    (collectStream stream yielded).1 = .error e ↔
      ∃ source, stream.failure? = some source ∧ e = .storeQuery source := by
  induction stream generalizing yielded with
  | nil => simp [collectStream, EntityStream.failure?]
  | cons element stream ih =>
    cases element with
    | error source => simp [collectStream, EntityStream.failure?, eq_comm]
    | ok entity =>
      have hrest := @ih (yielded + 1)
      rw [EntityStream.failure?, List.findSome?_cons]
      rw [EntityStream.failure?] at hrest
      rw [← hrest, collectStream]
      split
      · next hcollect => simp [hcollect]
      · next hcollect => simp [hcollect]

end Cursor

namespace CompiledQuery

theorem opened_eq_error_iff {reply : Except StoreError EntityStream} {e : QueryError}
    (request : StoreQuery) :
    opened reply = .error e ↔
      ∃ source, (StoreCall.query request reply).refusal? = some source ∧ e = .storeQuery source := by
  cases reply <;> simp [opened, StoreCall.refusal?, eq_comm]

theorem collected_eq_error_iff {reply : Except StoreError EntityStream} {e : QueryError}
    (request : StoreQuery) :
    collected reply = .error e ↔
      ∃ source, (StoreCall.query request reply).failure? = some source ∧ e = .storeQuery source := by
  cases reply with
  | ok stream => exact Cursor.collectStream_eq_error_iff
  | error source => simp [collected, StoreCall.failure?, StoreCall.refusal?, eq_comm]

end CompiledQuery

namespace Reading

/-- Carries the operation out. -/
def run (op : Reading) (q : Query) (s : Session σ) : Except QueryError Found × Session σ :=
  match op with
  | .cursor columns =>
    let (answer, s) := q.cursor columns s
    (answer.map .cursor, s)
  | .get columns =>
    let (answer, s) := q.get columns s
    (answer.map .records, s)
  | .first columns =>
    let (answer, s) := q.first columns s
    (answer.map .record, s)
  | .find id columns =>
    let (answer, s) := q.find id columns s
    (answer.map .record, s)

/-- The query that the operation compiles. -/
def query (q : Query) : Reading → Query
  | .cursor columns | .get columns => q.withColumns columns
  | .first columns => (q.limitTo 1).withColumns columns
  | .find id columns => q.lookup id columns

/-- What the operation makes of the answer of the store. -/
def answer (reply : Except StoreError EntityStream) : Reading → Except QueryError Found
  | .cursor _ => (CompiledQuery.opened reply).map .cursor
  | .get _ => (CompiledQuery.collected reply).map .records
  | .first _ | .find .. => (CompiledQuery.collected reply).map fun records => .record records.head?

/-- The failure of a call that fails the operation.  A cursor hands the failures of its stream
on instead. -/
def failure? : Reading → StoreCall → Option StoreError
  | .cursor _ => StoreCall.refusal?
  | .get _ | .first _ | .find .. => StoreCall.failure?

/-- The columns and the limit change neither namespace nor timeout. -/
theorem query_settings (q : Query) (op : Reading) :
    (op.query q).ns = q.ns ∧ (op.query q).timeout = q.timeout := by
  have hcolumns : ∀ (q : Query) columns, (q.withColumns columns).ns = q.ns ∧
      (q.withColumns columns).timeout = q.timeout := by
    intro q columns
    unfold Query.withColumns
    split <;> exact ⟨rfl, rfl⟩
  cases op with
  | cursor columns | get columns => exact hcolumns q columns
  | first columns => exact hcolumns (q.limitTo 1) columns
  | find id columns => exact hcolumns ((q.withIdentity id).limitTo 1) columns

/-- A query that does not compile never gets to the store. -/
theorem run_of_error {q : Query} {op : Reading} {e : QueryError}
    (h : (op.query q).compile = .error e) (s : Session σ) : op.run q s = (.error e, s) := by
  cases op with
  | cursor columns =>
    simp only [query] at h
    simp only [run, Query.cursor, h]
    rfl
  | get columns =>
    simp only [query] at h
    simp only [run, Query.get, h]
    rfl
  | first columns =>
    simp only [query] at h
    simp only [run, Query.first, Query.get, h]
    rfl
  | find id columns =>
    simp only [query, Query.lookup] at h
    simp only [run, Query.find, Query.first, Query.get, h]
    rfl

/-- A query that compiles is submitted once. -/
theorem run_eq {q : Query} {op : Reading} {compiled : CompiledQuery}
    (h : (op.query q).compile = .ok compiled) {s : Session σ}
    {reply : Except StoreError EntityStream} {store : σ}
    (hrun : EntityStore.runQuery compiled.prepare s.store = (reply, store)) :
    ∃ journal, op.run q s = (op.answer reply, ⟨store, journal⟩) := by
  cases op with
  | cursor columns =>
    obtain ⟨journal, hexecute⟩ := CompiledQuery.execute_eq compiled hrun
    simp only [query] at h
    simp only [run, Query.cursor, h, hexecute]
    exact ⟨_, rfl⟩
  | get columns =>
    obtain ⟨journal, hall⟩ := CompiledQuery.executeAll_eq compiled hrun
    simp only [query] at h
    simp only [run, Query.get, h, hall]
    exact ⟨_, rfl⟩
  | first columns =>
    obtain ⟨journal, hall⟩ := CompiledQuery.executeAll_eq compiled hrun
    simp only [query] at h
    simp only [run, Query.first, Query.get, h, hall, answer]
    cases CompiledQuery.collected reply <;> exact ⟨_, rfl⟩
  | find id columns =>
    obtain ⟨journal, hall⟩ := CompiledQuery.executeAll_eq compiled hrun
    simp only [query, Query.lookup] at h
    simp only [run, Query.find, Query.first, Query.get, h, hall, answer]
    cases CompiledQuery.collected reply <;> exact ⟨_, rfl⟩

theorem answer_eq_error_iff {op : Reading} {reply : Except StoreError EntityStream}
    {e : QueryError} (request : StoreQuery) :
    op.answer reply = .error e ↔
      ∃ source, op.failure? (.query request reply) = some source ∧ e = .storeQuery source := by
  have hmap : ∀ {α β : Type} (answer : Except QueryError α) (f : α → β),
      answer.map f = .error e ↔ answer = .error e := by
    intro α β answer f
    cases answer <;> simp [Except.map]
  cases op with
  | cursor columns => exact (hmap ..).trans (CompiledQuery.opened_eq_error_iff request)
  | get columns | first columns | find id columns =>
    exact (hmap ..).trans (CompiledQuery.collected_eq_error_iff request)

/-- The cursor that an operation gives stands at the begin of the stream. -/
theorem answer_eq_cursor {op : Reading} {reply : Except StoreError EntityStream}
    {cursor : Cursor} (h : op.answer reply = .ok (.cursor cursor)) :
    ∃ stream, reply = .ok stream ∧ cursor = .ofStream stream := by
  cases op with
  | cursor columns =>
    cases reply with
    | ok stream =>
      cases h
      exact ⟨stream, rfl, rfl⟩
    | error e => cases h
  | get columns | first columns | find id columns =>
    rw [answer] at h
    cases hcollected : CompiledQuery.collected reply <;> rw [hcollected] at h <;> cases h

end Reading

/-- A query that does not compile is rejected. -/
theorem Query.gravity_of_compile {q : Query} {e : QueryError} (h : q.compile = .error e) :
    e.gravity = .reject := by
  obtain ⟨-, rfl⟩ | ⟨-, _, _, _, -, -, -, rfl⟩ := Query.compile_eq_error_iff.1 h
  · rfl
  · rfl

/-! ## Writing -/

/-- An operation that writes. -/
inductive Writing where
  | insertGetId (properties : Properties)
  | insert (rows : List Properties)

/-- Carries the operation out. -/
def Writing.run (op : Writing) (q : Query) (s : Session σ) :
    Except QueryError (List KeyId) × Session σ :=
  match op with
  | .insertGetId properties =>
    let (answer, s) := q.insertGetId properties s
    (answer.map fun id => [id], s)
  | .insert rows => q.insert rows s

namespace Writing

/-- The entities that the operation inserts. -/
def rows : Writing → List Properties
  | .insertGetId properties => [properties]
  | .insert rows => rows

theorem run_eq_insert (op : Writing) (q : Query) (s : Session σ) :
    op.run q s = q.insert op.rows s := by
  cases op with
  | insert rows => rfl
  | insertGetId properties =>
    rw [run, rows, Query.insert]
    cases q.insertGetId properties s with
    | mk answer s' => cases answer <;> rfl

/-- Without a kind an operation that writes is rejected, if it writes anything. -/
theorem run_of_none {q : Query} (hkind : q.kind = none) (op : Writing) (s : Session σ) :
    op.run q s = (if op.rows = [] then .ok [] else .error .missingTargetKind, s) := by
  rw [run_eq_insert]
  cases op.rows with
  | nil => rfl
  | cons properties rows => simp [Query.insert, Query.insertGetId, hkind]

end Writing

/-! ## Operations -/

/-- The session without the watch on its store. -/
def Session.unwatched (s : Session (Recorded σ)) : Session σ := ⟨s.store.store, s.journal⟩

/-- What an operation that reads asks of a watched store, and how it fails. -/
structure Reading.Accounted (op : Reading) (q : Query) (s : Session (Recorded σ))
    (calls : List StoreCall) : Prop where
  calls_eq : (op.run q s).2.store.calls = s.store.calls ++ calls
  /-- A query that compiles is submitted once, and the store is asked nothing else. -/
  submitted : ∀ compiled, (op.query q).compile = .ok compiled →
    ∃ reply, calls = [.query compiled.prepare reply]
  /-- Of a query that does not compile the store hears nothing. -/
  unsubmitted : ∀ e, (op.query q).compile = .error e → calls = []
  settings : ∀ request reply, .query request reply ∈ calls →
    request.allowsLiterals = true ∧ request.ns = q.ns ∧ request.timeout = q.timeout
  reports : Reports calls op.failure? .storeQuery (op.run q s).1
  /-- A cursor yields the elements of the stream, failures as they are. -/
  yields : ∀ cursor, (op.run q s).1 = .ok (.cursor cursor) →
    ∃ request stream, calls = [.query request (.ok stream)] ∧
      ∀ items, cursor.Yields items ↔ items = stream.map Cursor.item
  /-- To be watched changes nothing for a store. -/
  unwatched : (op.run q s).1 = (op.run q s.unwatched).1 ∧
    (op.run q s).2.store.store = (op.run q s.unwatched).2.store

/-- What an operation that writes asks of a watched store, and how it fails. -/
structure Writing.Accounted (op : Writing) (q : Query) (s : Session (Recorded σ))
    (calls : List StoreCall) : Prop where
  calls_eq : (op.run q s).2.store.calls = s.store.calls ++ calls
  /-- The store is not queried. -/
  isQuery_eq_false : ∀ call ∈ calls, call.isQuery = false
  reports : Reports calls StoreCall.refusal? .storeWrite (op.run q s).1
  /-- To be watched changes nothing for a store. -/
  unwatched : (op.run q s).1 = (op.run q s.unwatched).1 ∧
    (op.run q s).2.store.store = (op.run q s.unwatched).2.store

theorem Reading.exists_accounted (op : Reading) (q : Query) (s : Session (Recorded σ)) :
    ∃ calls, op.Accounted q s calls := by
  cases hcompile : (op.query q).compile with
  | error e =>
    have hrun := run_of_error hcompile s
    have hrejected := Query.gravity_of_compile hcompile
    refine ⟨[], ?_, ?_, fun _ _ => rfl, by simp, ?_, ?_, ?_⟩
    · rw [hrun, List.append_nil]
    · rw [hcompile]
      nofun
    · rw [hrun]
      refine .of_rejected fun {e'} he => ?_
      cases he
      exact hrejected
    · rw [hrun]
      nofun
    · rw [hrun, run_of_error hcompile]
      exact ⟨rfl, rfl⟩
  | ok compiled =>
    cases hreply : EntityStore.runQuery compiled.prepare s.store.store with
    | mk reply store =>
      have hwatched : EntityStore.runQuery compiled.prepare s.store =
          (reply, (⟨store, s.store.calls ++ [.query compiled.prepare reply]⟩ : Recorded σ)) :=
        Recorded.runQuery_eq hreply
      obtain ⟨journal, hrun⟩ := run_eq hcompile hwatched
      obtain ⟨journal', hunwatched⟩ := run_eq hcompile (s := s.unwatched) hreply
      refine ⟨[.query compiled.prepare reply], ?_, ?_, ?_, ?_, ?_, ?_, ?_⟩
      · rw [hrun]
      · intro other hother
        cases hcompile.symm.trans hother
        exact ⟨reply, rfl⟩
      · intro e he
        cases hcompile.symm.trans he
      · intro request reply' hmem
        cases List.mem_singleton.1 hmem
        obtain ⟨-, clauses, hquery, -⟩ := Query.compile_eq_ok_iff.1 hcompile
        obtain ⟨hns, htimeout⟩ := query_settings q op
        exact ⟨rfl, by rw [← hns, CompiledQuery.prepare, hquery],
          by rw [← htimeout, CompiledQuery.prepare, hquery]⟩
      · rw [hrun]
        refine .of_error_iff (fun _ => rfl) fun {e} => ?_
        rw [answer_eq_error_iff compiled.prepare]
        simp
      · rw [hrun]
        intro cursor hcursor
        obtain ⟨stream, rfl, rfl⟩ := answer_eq_cursor hcursor
        exact ⟨_, stream, rfl, fun items => Cursor.yields_iff⟩
      · rw [hrun, hunwatched]
        exact ⟨rfl, rfl⟩

theorem Writing.exists_accounted (op : Writing) (q : Query) (s : Session (Recorded σ)) :
    ∃ calls, op.Accounted q s calls := by
  cases hkind : q.kind with
  | none =>
    have hrun := run_of_none hkind op s
    refine ⟨[], ?_, by simp, ?_, ?_⟩
    · rw [hrun, List.append_nil]
    · rw [hrun]
      refine .of_rejected fun {e} he => ?_
      split at he
      · cases he
      · cases he
        rfl
    · rw [hrun, run_of_none hkind]
      exact ⟨rfl, rfl⟩
  | some kind =>
    obtain ⟨answer, store, calls, h⟩ := InsertsAll.exists_insertsAll
      ((Key.incomplete kind).withNamespace q.ns)
      (fun properties key => .create key properties q.excluded) op.rows s.store.store
    have hrun := (h.watched s.store.calls).insert_eq hkind s.journal
    have hunwatched := h.insert_eq hkind s.journal
    have hwatched : op.run q s = (answer, ⟨⟨store, s.store.calls ++ calls⟩,
        s.journal.recordAll (calls.filterMap (StoreCall.event? kind))⟩) := by
      rw [run_eq_insert]
      exact hrun
    refine ⟨calls, ?_, h.isQuery_eq_false, ?_, ?_⟩
    · rw [hwatched]
    · rw [hwatched]
      exact .of_error_iff (fun _ => rfl) h.error_iff
    · rw [hwatched, run_eq_insert op q s.unwatched]
      exact ⟨(congrArg Prod.fst hunwatched).symm, congrArg (·.2.store) hunwatched.symm⟩

/-- On any store, whatever it answers: what does not compile is rejected before the store is
asked anything, and any other failure is one that the store gave, as it gave it. -/
theorem Query.operations_report_store (q : Query) (s : Session (Recorded σ)) :
    (∀ op : Reading, ∃ calls, op.Accounted q s calls) ∧
      ∀ op : Writing, ∃ calls, op.Accounted q s calls :=
  ⟨fun op => op.exists_accounted q s, fun op => op.exists_accounted q s⟩

/-- A watched store that gives every key back without an id, asked nothing so far. -/
def Session.ofIdless : Session (Recorded ScriptedStore) :=
  ⟨⟨.ofScript ⟨.ok none, none, none, []⟩, []⟩, .empty .info⟩

/-- A key without an id is no rejection: the store was asked for it. -/
theorem Query.operations_report_store_idless :
    ((Writing.insert [[], []]).run (Query.empty.ofKind "Widget") Session.ofIdless).1 =
        .error (.storeWrite (.incompleteKey (Key.incomplete "Widget").text)) ∧
      ∃ calls, (Writing.insert [[], []]).Accounted (Query.empty.ofKind "Widget") Session.ofIdless
        calls ∧ calls ≠ [] := by
  have herror : ((Writing.insert [[], []]).run (Query.empty.ofKind "Widget") Session.ofIdless).1 =
      .error (.storeWrite (.incompleteKey (Key.incomplete "Widget").text)) := rfl
  obtain ⟨calls, h⟩ := (Query.operations_report_store (Query.empty.ofKind "Widget")
    Session.ofIdless).2 (.insert [[], []])
  refine ⟨herror, calls, h, fun hnone => ?_⟩
  cases (h.reports.rejected_iff herror).2 hnone

end EntityQuery
