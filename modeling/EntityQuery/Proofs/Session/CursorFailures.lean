import EntityQuery.Proofs.Session.Journals
import EntityQuery.Proofs.Session.Operations

/-!
# Which failures of a cursor are recorded

A query that is run by a cursor can fail when it is submitted, and at any place of the stream
while the cursor is read.  The journal is written by the execution, which is over when the
cursor is given: a failure to submit is recorded, once, and one in the stream is handed to the
caller alone.

* Failures.  `Surfaces` are the failures that the caller sees who reads a cursor to its end.
* Executions.  `CompiledQuery.execute_eq_logged` is an execution with all its events.
* The result.  `CompiledQuery.execute_reports_submission_alone` compares the failures that surface
  with those that are recorded, for every store.
-/

namespace EntityQuery

variable {σ : Type} [EntityStore σ]

/-! ## Failures -/

/-- The failure that an item of a cursor is. -/
def surfaced : Except QueryError Record → Option QueryError
  | .ok _ => none
  | .error e => some e

/-- The failures that surface when a query is run by a cursor and the cursor, if there is one, is
read to its end. -/
inductive Surfaces : Except QueryError Cursor → List QueryError → Prop
  | submission (e : QueryError) : Surfaces (.error e) [e]
  | stream {cursor : Cursor} {items : List (Except QueryError Record)}
      (h : cursor.Yields items) : Surfaces (.ok cursor) (items.filterMap surfaced)

/-- A cursor can be read to its end, so that it is settled which failures surface. -/
theorem Surfaces.exists_iff (answer : Except QueryError Cursor) :
    ∃ failures, ∀ others, Surfaces answer others ↔ others = failures := by
  cases answer with
  | error e =>
    refine ⟨[e], ?_⟩
    intro others
    constructor
    · intro h
      cases h
      rfl
    · intro h
      rw [h]
      exact .submission e
  | ok cursor =>
    have hread : cursor.Yields (cursor.rest.map Cursor.item) := Cursor.yields_iff.2 rfl
    refine ⟨(cursor.rest.map Cursor.item).filterMap surfaced, ?_⟩
    intro others
    constructor
    · intro h
      cases h with
      | stream hyields => rw [Cursor.yields_iff.1 hyields]
    · intro h
      rw [h]
      exact .stream hread

/-! ## Executions -/

namespace CompiledQuery

/-- The event of a failed query: its code, the kind of the query and the reason. -/
def report (compiled : CompiledQuery) (e : QueryError) : Entry :=
  { severity := .error
    event := "QUERY_FAILED"
    fields := [("code", e.code), ("kind", compiled.kind), ("reason", e.message)] }

/-- The events of an execution that gives an answer. -/
def executionEvents (compiled : CompiledQuery) : Except QueryError Cursor → List Entry
  | .ok _ => [compiled.announcement]
  | .error e => [compiled.announcement, compiled.report e]

/-- An execution records that the query is submitted, and its failure if that fails. -/
theorem execute_eq_logged (compiled : CompiledQuery) {s : Session σ}
    {reply : Except StoreError EntityStream} {store : σ}
    (hrun : EntityStore.runQuery compiled.prepare s.store = (reply, store)) :
    compiled.execute s =
      (opened reply, ⟨store, s.journal.recordAll (compiled.executionEvents (opened reply))⟩) := by
  unfold execute
  rw [submit_eq_announced compiled hrun]
  cases reply <;> rfl

/-- The errors that an execution records: one if it gives no cursor. -/
def reported (compiled : CompiledQuery) : Except QueryError Cursor → List Entry
  | .ok _ => []
  | .error e => [compiled.report e]

theorem execute_errors (compiled : CompiledQuery) {s : Session σ}
    (hthreshold : Severity.error.reaches s.journal.threshold = true) :
    (compiled.execute s).2.journal.errors =
      s.journal.errors ++ compiled.reported (compiled.execute s).1 := by
  obtain ⟨reply, store, hrun⟩ :
      ∃ reply store, EntityStore.runQuery compiled.prepare s.store = (reply, store) :=
    ⟨_, _, rfl⟩
  rw [execute_eq_logged compiled hrun]
  rw [Journal.recordAll_errors hthreshold]
  cases reply <;> rfl

/-! ## The result -/

/-- Which failures are recorded when a query is run by a cursor that is read to its end, on any
store and from any journal that records errors.  A failure to submit is recorded by one error
with its code, the kind and the reason; once a cursor is given, no error is recorded, whatever
surfaces from its stream.  So the recorded errors are the failures exactly if none surfaces from
a stream. -/
theorem execute_reports_submission_alone (compiled : CompiledQuery) (s : Session σ)
    (hthreshold : Severity.error.reaches s.journal.threshold = true) :
    ∃ failures, (∀ others, Surfaces (compiled.execute s).1 others ↔ others = failures) ∧
      ((∃ e, (compiled.execute s).1 = .error e ∧ failures = [e] ∧
          (compiled.execute s).2.journal.errors = s.journal.errors ++ [compiled.report e]) ∨
        ∃ cursor, (compiled.execute s).1 = .ok cursor ∧
          (compiled.execute s).2.journal.errors = s.journal.errors) ∧
      ((compiled.execute s).2.journal.errors =
          s.journal.errors ++ failures.map compiled.report ↔
        ∀ cursor, (compiled.execute s).1 = .ok cursor → failures = []) := by
  obtain ⟨failures, hsurfaces⟩ := Surfaces.exists_iff (compiled.execute s).1
  have herrors := compiled.execute_errors hthreshold
  refine ⟨failures, hsurfaces, ?_⟩
  cases hanswer : (compiled.execute s).1 with
  | error e =>
    -- Then the failure to submit is all that surfaces.
    rw [hanswer] at hsurfaces herrors
    obtain rfl : [e] = failures := (hsurfaces [e]).1 (.submission e)
    constructor
    · exact .inl ⟨e, rfl, rfl, herrors⟩
    · constructor
      · intro _ cursor hcursor
        cases hcursor
      · intro _
        exact herrors
  | ok cursor =>
    rw [hanswer] at herrors
    rw [reported, List.append_nil] at herrors
    constructor
    · exact .inr ⟨cursor, rfl, herrors⟩
    · rw [herrors, List.self_eq_append_right, List.map_eq_nil_iff]
      constructor
      · intro hnone _ _
        exact hnone
      · intro hnone
        exact hnone cursor rfl

/-- A stream of widgets that is broken off between two of them. -/
def brokenStream : ScriptedStore :=
  .ofScript ⟨.ok none, none, none,
    [.ok ⟨.incomplete "Widget", [], []⟩, .error (.backend "stream reset"),
      .ok ⟨.incomplete "Widget", [], []⟩]⟩

/-- The failure of a broken stream surfaces and is not recorded. -/
theorem execute_reports_submission_alone_broken :
    ∃ (compiled : CompiledQuery) (s : Session ScriptedStore) (e : QueryError),
      Severity.error.reaches s.journal.threshold = true ∧
      Surfaces (compiled.execute s).1 [e] ∧
      (compiled.execute s).2.journal.errors ≠ s.journal.errors ++ [compiled.report e] ∧
      (compiled.execute s).2.journal.errors = s.journal.errors := by
  let compiled : CompiledQuery := ⟨Query.empty.ofKind "Widget", "Widget"⟩
  let s : Session ScriptedStore := ⟨brokenStream, .empty .info⟩
  let e : QueryError := .storeQuery (.backend "stream reset")
  have hcursor : (compiled.execute s).1 = .ok (.ofStream brokenStream.script.results) := rfl
  obtain ⟨failures, hsurfaces, herrors, hall⟩ :=
    execute_reports_submission_alone compiled s rfl
  have hfailures : [e] = failures := by
    apply (hsurfaces [e]).1
    rw [hcursor]
    exact .stream (Cursor.yields_iff.2 rfl)
  refine ⟨compiled, s, e, rfl, hfailures ▸ (hsurfaces failures).2 rfl, ?_, ?_⟩
  · intro hreported
    rw [← hfailures] at hall
    cases hall.1 hreported _ hcursor
  · obtain ⟨e, he, -⟩ | ⟨cursor, -, hnone⟩ := herrors
    · cases hcursor.symm.trans he
    · exact hnone

end CompiledQuery

end EntityQuery
