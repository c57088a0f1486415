import EntityQuery.Proofs.Journal.Lines
import EntityQuery.Proofs.Session.Journals

/-!
# What scopes tell

A scope is recorded by two events, at its begin and at its end, of which the fields are seen on the
lines of the journal.  A scope that is completed or fails repeats at its end the fields that it
began with.  One that is dropped does not.

* Lines.  `Entry.Shows` is what the line of an event tells behind its name and severity, and
  `Entry.shows_iff` says that these are the shown fields of the event.
* Scopes.  `Scope.closingFields` are the fields that the end of a scope shows, and
  `Scope.closing_repeats_iff` says when the first fields are among them.
* The result.  `Scope.begins_and_ends`.
-/

namespace EntityQuery

open Json

namespace Entry

/-- The line of an event, with the given time, is an object of the name of the event, its severity
and these fields, in some order. -/
def Shows (elapsed : String) (entry : Entry) (fields : EventFields) : Prop :=
  ∃ sorted, sorted.Perm fields ∧
    Source.read? (Line.write entry.event entry.severity (entry.shownFields elapsed)) =
      some (.object ((("event", entry.event) :: ("severity", entry.severity.text) :: sorted).map
        Line.sourceMember))

theorem shows_iff {elapsed : String} {entry : Entry} {fields : EventFields} :
    entry.Shows elapsed fields ↔ fields.Perm (entry.shownFields elapsed) := by
  have hperm := Line.inKeyOrder_perm (entry.shownFields elapsed)
  constructor
  · rintro ⟨sorted, hsorted, hread⟩
    rw [Line.source_write, Option.some.injEq, Source.object.injEq] at hread
    have hmembers := List.map_injective_iff.2 Line.sourceMember_injective hread
    cases hmembers
    exact hsorted.symm.trans hperm
  · intro hfields
    exact ⟨_, hperm.trans hfields.symm, Line.source_write ..⟩

/-- The line of an event tells all of these fields, whatever time it is given. -/
def Repeats (entry : Entry) (fields : EventFields) : Prop :=
  ∀ elapsed, ∃ shown, entry.Shows elapsed shown ∧ ∀ field ∈ fields, field ∈ shown

theorem repeats_iff {entry : Entry} {fields : EventFields} :
    entry.Repeats fields ↔ ∀ elapsed, ∀ field ∈ fields, field ∈ entry.shownFields elapsed := by
  refine forall_congr' fun elapsed => ?_
  constructor
  · rintro ⟨shown, hshows, hmem⟩ field hfield
    exact (shows_iff.1 hshows).mem_iff.1 (hmem field hfield)
  · intro hmem
    exact ⟨_, shows_iff.2 (.refl _), hmem⟩

end Entry

namespace Scope

/-- What a dropped scope gives as its reason. -/
def dropReason : String × String := ("reason", "scope dropped without completion")

/-- The fields that the end of a scope shows, with the time that the work took. -/
def closingFields (fields : EventFields) (elapsed : String) : Ending → EventFields
  | .complete extra => fields ++ extra ++ [("elapsed_ms", elapsed)]
  | .fail reason => fields ++ [("reason", reason)]
  | .drop => [dropReason]

/-- The name and the severity of the event at the end of a scope. -/
def closingEvent (name : String) : Ending → String × Severity
  | .complete _ => (name ++ "_COMPLETE", .info)
  | .fail _ | .drop => (name ++ "_ERROR", .error)

theorem shownFields_closing (scope : Scope) (elapsed : String) (ending : Ending) :
    (scope.closing ending).shownFields elapsed = closingFields scope.fields elapsed ending := by
  cases ending <;> rfl

theorem closing_event (scope : Scope) (ending : Ending) :
    ((scope.closing ending).event, (scope.closing ending).severity) =
      closingEvent scope.name ending := by
  cases ending <;> rfl

/-- At its end a scope repeats its fields, unless it is dropped. -/
theorem closing_repeats_iff {scope : Scope} {ending : Ending} :
    (scope.closing ending).Repeats scope.fields ↔
      (ending = .drop → ∀ field ∈ scope.fields, field = dropReason) := by
  simp only [Entry.repeats_iff, shownFields_closing]
  cases ending with
  | complete extra =>
    simp only [reduceCtorEq, false_implies, iff_true]
    exact fun _ _ hfield => List.mem_append_left _ (List.mem_append_left _ hfield)
  | fail reason =>
    simp only [reduceCtorEq, false_implies, iff_true]
    exact fun _ _ hfield => List.mem_append_left _ hfield
  | drop => simp [closingFields]

/-- The end of a scope is recorded wherever informational events are. -/
theorem closing_reaches {threshold : Severity} (h : Severity.info.reaches threshold = true)
    (scope : Scope) (ending : Ending) :
    (scope.closing ending).severity.reaches threshold = true := by
  have herror : Severity.error.reaches threshold = true := by
    revert h
    cases threshold <;> decide
  cases ending with
  | complete extra => exact h
  | fail reason => exact herror
  | drop => exact herror

/-- A scope adds two events to the journal. -/
theorem finish_start {journal : Journal} (h : Severity.info.reaches journal.threshold = true)
    (name : String) (fields : EventFields) (ending : Ending) :
    (start name fields journal).1.finish ending (start name fields journal).2 =
      { journal with
        entries :=
          journal.entries ++ [opening name fields, closing ⟨name, fields, false⟩ ending] } := by
  have hbegun : (start name fields journal).2 =
      { journal with entries := journal.entries ++ [opening name fields] } := if_pos h
  rw [hbegun, finish_eq_record rfl, Journal.record, if_pos (closing_reaches h _ _),
    List.append_assoc]
  rfl

/-- Whatever a scope is named, whatever fields it has and however it ends, two events are recorded:
its begin, which shows its fields, and its end, which is a completion or a failure.  The fields are
repeated at the end if and only if the scope is not dropped, or has none but the reason that a
dropped scope gives. -/
theorem begins_and_ends (name : String) (fields : EventFields) (ending : Ending)
    {journal : Journal} (h : Severity.info.reaches journal.threshold = true) :
    ∃ begun ended : Entry,
      (start name fields journal).1.finish ending (start name fields journal).2 =
        { journal with entries := journal.entries ++ [begun, ended] } ∧
      ((begun.event, begun.severity) = (name ++ "_BEGIN", .info) ∧
        ∀ elapsed, begun.Shows elapsed fields) ∧
      ((ended.event, ended.severity) = closingEvent name ending ∧
        ∀ elapsed, ended.Shows elapsed (closingFields fields elapsed ending)) ∧
      begun.Repeats fields ∧
      (ended.Repeats fields ↔ (ending = .drop → ∀ field ∈ fields, field = dropReason)) := by
  have hopening : ∀ elapsed, (opening name fields).Shows elapsed fields :=
    fun _ => Entry.shows_iff.2 (.refl _)
  refine ⟨opening name fields, closing ⟨name, fields, false⟩ ending,
    finish_start h name fields ending, ⟨rfl, hopening⟩, ⟨closing_event .., fun elapsed => ?_⟩,
    fun elapsed => ⟨fields, hopening elapsed, fun _ hfield => hfield⟩, closing_repeats_iff⟩
  rw [Entry.shows_iff, shownFields_closing]

/-- A dropped scope of a query loses the kind that it began with. -/
theorem begins_and_ends_dropped :
    ∃ begun ended : Entry,
      (start "QUERY" [("kind", "Widget")] (.empty .info)).1.finish .drop
          (start "QUERY" [("kind", "Widget")] (.empty .info)).2 = ⟨.info, [begun, ended]⟩ ∧
        begun.Repeats [("kind", "Widget")] ∧ ¬ended.Repeats [("kind", "Widget")] := by
  have hreaches : Severity.info.reaches (Journal.empty .info).threshold = true := rfl
  obtain ⟨begun, ended, hfinish, -, -, hbegun, hended⟩ :=
    begins_and_ends "QUERY" [("kind", "Widget")] .drop hreaches
  refine ⟨begun, ended, hfinish, hbegun, fun hrepeats => ?_⟩
  exact absurd (hended.1 hrepeats rfl _ List.mem_cons_self) (by decide)

end Scope

end EntityQuery
