import EntityQuery.Proofs.Session.Draining

/-!
# The scope around a collecting execution

All records of a query are collected within a scope.  The scope may be left where the query is
submitted, at any failure in the stream, or at the end of the stream.

* Events.  `CompiledQuery.ending` is how the scope ends for each answer, and
  `CompiledQuery.executeAll_eq_logged` is an execution with all its events.
* The result.  `CompiledQuery.executeAll_isScoped` puts the query that the store received, the
  answer and the events together, for any store.
-/

namespace EntityQuery

namespace CompiledQuery

/-! ## Events -/

/-- The scope of an execution. -/
def scope (compiled : CompiledQuery) : Scope := ⟨"QUERY", [("kind", compiled.kind)], false⟩

/-- How the scope of an execution ends: it is completed with the number of records, or fails for
the reason that the caller is told. -/
def ending : Except QueryError (List Record) → Scope.Ending
  | .ok records => .complete [("records", toString records.length)]
  | .error e => .fail e.message

/-- The events of an execution that gives an answer. -/
def collectingEvents (compiled : CompiledQuery) (answer : Except QueryError (List Record)) :
    List Entry :=
  [Scope.opening "QUERY" [("kind", compiled.kind)], compiled.announcement,
    compiled.scope.closing (ending answer)]

section

variable {σ : Type} [EntityStore σ] {s : Session σ} {reply : Except StoreError EntityStream}
  {store : σ}

theorem drain_eq_announced (compiled : CompiledQuery)
    (hrun : EntityStore.runQuery compiled.prepare s.store = (reply, store)) :
    compiled.drain s = (collected reply, ⟨store, s.journal.record compiled.announcement⟩) := by
  unfold drain
  rw [submit_eq_announced compiled hrun]
  cases reply <;> rfl

/-- An execution records that the scope begins, that the query is submitted, and how the scope
ends. -/
theorem executeAll_eq_logged (compiled : CompiledQuery)
    (hrun : EntityStore.runQuery compiled.prepare s.store = (reply, store)) :
    compiled.executeAll s =
      (collected reply,
        ⟨store, s.journal.recordAll (compiled.collectingEvents (collected reply))⟩) := by
  let begun : Session σ :=
    ⟨s.store, s.journal.record (Scope.opening "QUERY" [("kind", compiled.kind)])⟩
  have hstart : s.startScope "QUERY" [("kind", compiled.kind)] = (compiled.scope, begun) := rfl
  have hdrain := drain_eq_announced compiled (s := begun) hrun
  have hfinish : ∀ ending, Session.finishScope ⟨store, begun.journal.record compiled.announcement⟩
      compiled.scope ending =
        ⟨store, s.journal.recordAll [Scope.opening "QUERY" [("kind", compiled.kind)],
          compiled.announcement, compiled.scope.closing ending]⟩ := by
    intro ending
    rw [Session.finishScope, Scope.finish_eq_record rfl]
    rfl
  unfold executeAll
  simp only [hstart, hdrain]
  cases collected reply with
  | ok records => exact congrArg (Prod.mk (Except.ok records)) (hfinish _)
  | error e => exact congrArg (Prod.mk (Except.error e)) (hfinish _)

end

/-! ## Answers -/

/-- A stream without a failure is the stream of some entities. -/
theorem collectStream_eq_ok_iff {stream : EntityStream} {yielded : Nat} {records : List Record} :
    (Cursor.collectStream stream yielded).1 = .ok records ↔
      ∃ entities : List Entity, stream = entities.map .ok ∧
        records = entities.map Record.ofEntity := by
  constructor
  · intro h
    induction stream generalizing yielded records with
    | nil =>
      cases h
      exact ⟨[], rfl, rfl⟩
    | cons element stream ih =>
      cases element with
      | error e => cases h
      | ok entity =>
        rw [Cursor.collectStream] at h
        split at h
        · next rest cursor hrest =>
          obtain ⟨entities, rfl, rfl⟩ := ih (congrArg Prod.fst hrest)
          cases h
          exact ⟨entity :: entities, rfl, rfl⟩
        · cases h
  · rintro ⟨entities, rfl, rfl⟩
    exact Cursor.collectStream_ok entities yielded

theorem collected_eq_ok_iff {reply : Except StoreError EntityStream} {records : List Record} :
    collected reply = .ok records ↔
      ∃ entities : List Entity, reply = .ok (entities.map .ok) ∧
        records = entities.map Record.ofEntity := by
  cases reply with
  | error e =>
    constructor
    · intro h
      cases h
    · rintro ⟨entities, h, -⟩
      cases h
  | ok stream =>
    simp only [Except.ok.injEq]
    exact collectStream_eq_ok_iff

/-! ## The result -/

section

variable {σ : Type} [EntityStore σ]

/-- What an execution on a watched store asks and records, and how that goes with its answer. -/
structure IsScoped (compiled : CompiledQuery) (s : Session (Recorded σ))
    (outcome : Except QueryError (List Record) × Session (Recorded σ)) (request : StoreQuery)
    (reply : Except StoreError EntityStream) (closing : Entry) : Prop where
  calls_eq : outcome.2.store.calls = s.store.calls ++ [.query request reply]
  /-- There are three events: the begin of the scope, the text that the store received, and the
  end of the scope. -/
  entries_eq : outcome.2.journal.entries = s.journal.entries ++
    [{ severity := .info, event := "QUERY_BEGIN", fields := [("kind", compiled.kind)] },
      { severity := .trace
        event := "QUERY_COMPILED"
        fields := [("gql", request.gql), ("kind", compiled.kind)] },
      closing]
  /-- The records are those of a stream without a failure. -/
  ok_iff : ∀ records, outcome.1 = .ok records ↔
    ∃ entities : List Entity, reply = .ok (entities.map .ok) ∧
      records = entities.map Record.ofEntity
  /-- The failure is the reply, or the first in its stream. -/
  error_iff : ∀ e, outcome.1 = .error e ↔
    ∃ source, (StoreCall.query request reply).failure? = some source ∧ e = .storeQuery source
  complete_iff : closing.event = "QUERY_COMPLETE" ↔ ∃ records, outcome.1 = .ok records
  failed_iff : closing.event = "QUERY_ERROR" ↔ ∃ e, outcome.1 = .error e
  closing_of_ok : ∀ records, outcome.1 = .ok records → closing =
    { severity := .info
      event := "QUERY_COMPLETE"
      fields := [("kind", compiled.kind), ("records", toString records.length)]
      timed := true }
  closing_of_error : ∀ e, outcome.1 = .error e → closing =
    { severity := .error
      event := "QUERY_ERROR"
      fields := [("kind", compiled.kind), ("reason", e.message)] }

theorem isScoped_of_runQuery (compiled : CompiledQuery) {s : Session (Recorded σ)}
    (hthreshold : s.journal.threshold = .trace) {reply : Except StoreError EntityStream} {store : σ}
    (hrun : EntityStore.runQuery compiled.prepare s.store.store = (reply, store)) :
    compiled.IsScoped s (compiled.executeAll s) compiled.prepare reply
      (compiled.scope.closing (ending (collected reply))) := by
  have hwatched : EntityStore.runQuery compiled.prepare s.store =
      (reply, (⟨store, s.store.calls ++ [.query compiled.prepare reply]⟩ : Recorded σ)) :=
    Recorded.runQuery_eq hrun
  rw [executeAll_eq_logged compiled hwatched]
  refine ⟨rfl, Journal.recordAll_entries_of_trace hthreshold _, fun _ => collected_eq_ok_iff,
    fun _ => collected_eq_error_iff compiled.prepare, ?_, ?_, ?_, ?_⟩
  · cases collected reply with
    | ok records => exact ⟨fun _ => ⟨records, rfl⟩, fun _ => rfl⟩
    | error e =>
      constructor
      · intro h
        exact absurd (show "QUERY_ERROR" = "QUERY_COMPLETE" from h) (by decide)
      · rintro ⟨records, h⟩
        cases h
  · cases collected reply with
    | ok records =>
      constructor
      · intro h
        exact absurd (show "QUERY_COMPLETE" = "QUERY_ERROR" from h) (by decide)
      · rintro ⟨e, h⟩
        cases h
    | error e => exact ⟨fun _ => ⟨e, rfl⟩, fun _ => rfl⟩
  · intro records h
    obtain h : collected reply = .ok records := h
    rw [h]
    rfl
  · intro e h
    obtain h : collected reply = .error e := h
    rw [h]
    rfl

/-- An execution that collects all records, on any store and from any journal that records
everything.  It records the begin of its scope, the text that it submits, and one end of the
scope: its completion with the number of records if it gives them, and otherwise its failure with
the reason that the caller is told.  To be watched changes nothing for a store. -/
theorem executeAll_isScoped (compiled : CompiledQuery) (s : Session (Recorded σ))
    (hthreshold : s.journal.threshold = .trace) :
    (∃ request reply closing,
        compiled.IsScoped s (compiled.executeAll s) request reply closing) ∧
      (compiled.executeAll s).1 = (compiled.executeAll s.unwatched).1 ∧
      (compiled.executeAll s).2.unwatched = (compiled.executeAll s.unwatched).2 := by
  obtain ⟨reply, store, hrun⟩ :
      ∃ reply store, EntityStore.runQuery compiled.prepare s.store.store = (reply, store) :=
    ⟨_, _, rfl⟩
  refine ⟨⟨_, _, _, isScoped_of_runQuery compiled hthreshold hrun⟩, ?_⟩
  rw [executeAll_eq_logged compiled (Recorded.runQuery_eq hrun),
    executeAll_eq_logged compiled (s := s.unwatched) hrun]
  exact ⟨rfl, rfl⟩

end

/-- The failure of a broken stream ends the scope, and is the last thing that is recorded. -/
theorem executeAll_isScoped_broken :
    let compiled : CompiledQuery := ⟨Query.empty.ofKind "Widget", "Widget"⟩
    let s : Session (Recorded ScriptedStore) := ⟨⟨brokenStream, []⟩, .empty .trace⟩
    s.journal.threshold = .trace ∧
      (compiled.executeAll s).1 = .error (.storeQuery (.backend "stream reset")) ∧
      (compiled.executeAll s).2.journal.entries =
        [{ severity := .info, event := "QUERY_BEGIN", fields := [("kind", "Widget")] },
          { severity := .trace
            event := "QUERY_COMPILED"
            fields := [("gql", "SELECT * FROM Widget"), ("kind", "Widget")] },
          { severity := .error
            event := "QUERY_ERROR"
            fields := [("kind", "Widget"), ("reason", "Backend error: stream reset")] }] := by
  intro compiled s
  have hanswer : (compiled.executeAll s).1 = .error (.storeQuery (.backend "stream reset")) := rfl
  obtain ⟨⟨request, reply, closing, h⟩, -⟩ := executeAll_isScoped compiled s rfl
  refine ⟨rfl, hanswer, ?_⟩
  have hrequest : request = compiled.prepare := by
    have hcalls := h.calls_eq
    injection hcalls with hcall
    injection hcall with hrequest
    exact hrequest.symm
  have hgql : request.gql = "SELECT * FROM Widget" := by
    rw [hrequest]
    decide
  rw [h.entries_eq, h.closing_of_error _ hanswer, hgql]
  rfl

end CompiledQuery

end EntityQuery
