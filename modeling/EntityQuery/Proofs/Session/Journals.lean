import EntityQuery.Journal.Scope
import EntityQuery.Query.Error
import EntityQuery.Store.Recorded

/-!
# What journals keep

Work on a session records events one after the other.  A journal keeps those that reach its
threshold, in their order.

* Several events.  `Journal.recordAll_entries` says what a journal keeps of them, and
  `Journal.recordAll_errors` which errors.
* Scopes.  `Scope.finish_eq_record` says that a scope ends with one event, `Scope.closing`, in
  whatever way it ends.
* Insertions.  `StoreCall.event?` is the event that a call to the store is recorded by, and
  `Journal.entries_recordAll_events` says which journals keep the events of all calls.
-/

namespace EntityQuery

/-! ## Several events -/

namespace Journal

/-- Records events in their order. -/
def recordAll (journal : Journal) (entries : List Entry) : Journal := entries.foldl record journal

theorem recordAll_append (journal : Journal) (entries more : List Entry) :
    journal.recordAll (entries ++ more) = (journal.recordAll entries).recordAll more :=
  List.foldl_append

theorem record_threshold (journal : Journal) (entry : Entry) :
    (journal.record entry).threshold = journal.threshold := by
  unfold record
  split <;> rfl

theorem record_entries (journal : Journal) (entry : Entry) :
    (journal.record entry).entries =
      journal.entries ++ [entry].filter (·.severity.reaches journal.threshold) := by
  unfold record
  split
  · next hreaches => simp [hreaches]
  · next hreaches => simp [hreaches]

/-- A journal keeps the events from its threshold on, behind those that it has. -/
theorem recordAll_entries (journal : Journal) (entries : List Entry) :
    (journal.recordAll entries).entries =
      journal.entries ++ entries.filter (·.severity.reaches journal.threshold) := by
  induction entries generalizing journal with
  | nil => exact (List.append_nil _).symm
  | cons entry entries ih =>
    have hrest := ih (journal.record entry)
    rw [record_threshold, record_entries, List.append_assoc, ← List.filter_append] at hrest
    exact hrest

/-- The errors in a journal. -/
def errors (journal : Journal) : List Entry := journal.entries.filter (·.severity == .error)

/-- A journal that records errors keeps all the errors among the events. -/
theorem recordAll_errors {journal : Journal}
    (hthreshold : Severity.error.reaches journal.threshold = true) (entries : List Entry) :
    (journal.recordAll entries).errors =
      journal.errors ++ entries.filter (·.severity == .error) := by
  unfold errors
  rw [recordAll_entries, List.filter_append, List.filter_filter]
  congr 1
  apply List.filter_congr
  intro entry _
  by_cases herror : entry.severity = .error
  · simp [herror, hthreshold]
  · simp [herror]

/-- A journal that records everything keeps all events. -/
theorem recordAll_entries_of_trace {journal : Journal} (h : journal.threshold = .trace)
    (entries : List Entry) :
    (journal.recordAll entries).entries = journal.entries ++ entries := by
  rw [recordAll_entries, List.filter_eq_self.2]
  intro entry _
  rw [h]
  exact decide_eq_true (Nat.zero_le _)

end Journal

/-! ## Scopes -/

namespace Scope

/-- The event at the begin of a scope. -/
def opening (name : String) (fields : EventFields) : Entry :=
  { severity := .info
    event := name ++ "_BEGIN"
    fields }

/-- The event at the end of a scope. -/
def closing (scope : Scope) : Ending → Entry
  | .complete extra =>
    { severity := .info
      event := scope.name ++ "_COMPLETE"
      fields := scope.fields ++ extra
      timed := true }
  | .fail reason =>
    { severity := .error
      event := scope.name ++ "_ERROR"
      fields := scope.fields ++ [("reason", reason)] }
  | .drop =>
    { severity := .error
      event := scope.name ++ "_ERROR"
      fields := [("reason", "scope dropped without completion")] }

/-- A scope under way ends with one event.  That it is given up after its completion or its
failure is not recorded. -/
theorem finish_eq_record {scope : Scope} (h : scope.isCompleted = false) (ending : Ending)
    (journal : Journal) :
    scope.finish ending journal = journal.record (scope.closing ending) := by
  cases ending with
  | complete extra => rfl
  | fail reason => rfl
  | drop =>
    rw [finish, drop, h]
    rfl

end Scope

/-! ## Insertions -/

namespace Entry

/-- The event of an id that was given out. -/
def keyAllocated (kind : String) (id : KeyId) : Entry :=
  { severity := .info
    event := "KEY_ALLOCATED"
    fields := [("id", id.text), ("kind", kind)] }

/-- The event of an entity that is kept. -/
def entityInserted (kind : String) (id : KeyId) : Entry :=
  { severity := .info
    event := "ENTITY_INSERTED"
    fields := [("id", id.text), ("kind", kind)] }

/-- The event of an insertion that failed. -/
def writeFailed (kind : String) (e : QueryError) : Entry :=
  { severity := .error
    event := "WRITE_FAILED"
    fields := [("kind", kind), ("reason", e.message)] }

end Entry

/-- The event that a call of an insertion is recorded by. -/
def StoreCall.event? (kind : String) : StoreCall → Option Entry
  | .allocate _ (.error e) | .insert _ (.error e) => some (.writeFailed kind (.storeWrite e))
  | .allocate _ (.ok key) =>
    match key.id with
    | none => some (.writeFailed kind (.storeWrite (.incompleteKey key.text)))
    | some id => some (.keyAllocated kind id)
  | .insert e (.ok _) => e.key.id.map (.entityInserted kind)
  | .query _ _ => none

/-- The events of calls are worth an information, and are kept by a journal that records it. -/
theorem Journal.entries_recordAll_events {journal : Journal}
    (h : Severity.info.reaches journal.threshold = true) (kind : String) (calls : List StoreCall) :
    (journal.recordAll (calls.filterMap (StoreCall.event? kind))).entries =
      journal.entries ++ calls.filterMap (StoreCall.event? kind) := by
  rw [recordAll_entries, List.filter_eq_self.2]
  intro entry hmem
  obtain ⟨call, -, hevent⟩ := List.mem_filterMap.1 hmem
  have hseverity : entry.severity = .info ∨ entry.severity = .error := by
    unfold StoreCall.event? at hevent
    split at hevent
    · cases hevent
      exact .inr rfl
    · cases hevent
      exact .inr rfl
    · split at hevent
      · cases hevent
        exact .inr rfl
      · cases hevent
        exact .inl rfl
    · obtain ⟨id, -, rfl⟩ := Option.map_eq_some_iff.1 hevent
      exact .inl rfl
    · cases hevent
  have hrank : journal.threshold.rank ≤ 1 := of_decide_eq_true h
  rcases hseverity with hinfo | herror
  · rw [hinfo]
    exact h
  · rw [herror]
    exact decide_eq_true (Nat.le_trans hrank (by decide))

end EntityQuery
