import EntityQuery.Journal.Line

/-!
# Journals

A journal records events from its threshold on, in the order in which they
happen.  The events of the library are named by `Event`, each with a severity
of its own; a `Scope` brackets a piece of work between an event at its begin and
one at its end.

What a piece of work took is known only to who runs it, so an event at the end
of one is marked `timed`, and the time is put in when its line is written.
-/

namespace EntityQuery

/-- A recorded event. -/
structure Entry where
  severity : Severity
  event : String
  fields : EventFields
  /-- Whether the line of the event also shows the time that a piece of work took. -/
  timed : Bool := false
deriving DecidableEq, Repr

namespace Entry

/-- The fields that the line of an event shows, with the given time. -/
def shownFields (elapsed : String) (entry : Entry) : EventFields :=
  if entry.timed then entry.fields ++ [("elapsed_ms", elapsed)] else entry.fields

/-- The line of an event without its end. -/
def text (elapsed : String) (entry : Entry) : String :=
  Line.text entry.event entry.severity (entry.shownFields elapsed)

end Entry

/-- The events of the library. -/
inductive Event where
  | configLoaded
  | connectionOpened
  | queryCompiled
  | queryFailed
  | keyAllocated
  | entityInserted
  | writeFailed
deriving DecidableEq, Repr

namespace Event

/-- The name of an event. -/
def name : Event → String
  | .configLoaded => "CONFIG_LOADED"
  | .connectionOpened => "CONNECTION_OPENED"
  | .queryCompiled => "QUERY_COMPILED"
  | .queryFailed => "QUERY_FAILED"
  | .keyAllocated => "KEY_ALLOCATED"
  | .entityInserted => "ENTITY_INSERTED"
  | .writeFailed => "WRITE_FAILED"

/-- How grave an event is. -/
def severity : Event → Severity
  | .queryCompiled => .trace
  | .queryFailed | .writeFailed => .error
  | .configLoaded | .connectionOpened | .keyAllocated | .entityInserted => .info

/-- All events. -/
def all : List Event :=
  [.configLoaded, .connectionOpened, .queryCompiled, .queryFailed, .keyAllocated,
    .entityInserted, .writeFailed]

/-- The event with the given name. -/
def ofName? (name : String) : Option Event := all.find? fun event => event.name == name

end Event

/-- The events that were recorded, in order, and the least severity that is. -/
structure Journal where
  threshold : Severity
  entries : List Entry
deriving DecidableEq, Repr

namespace Journal

/-- The journal without events that records from the given severity on. -/
def empty (threshold : Severity) : Journal := ⟨threshold, []⟩

/-- Records an event if it is grave enough. -/
def record (journal : Journal) (entry : Entry) : Journal :=
  if entry.severity.reaches journal.threshold then
    { journal with entries := journal.entries ++ [entry] }
  else journal

/-- Records an event of the given name and severity. -/
def log (journal : Journal) (severity : Severity) (event : String) (fields : EventFields) :
    Journal :=
  journal.record { severity, event, fields }

/-- Records an event of the library. -/
def logEvent (journal : Journal) (event : Event) (fields : EventFields) : Journal :=
  journal.log event.severity event.name fields

end Journal

end EntityQuery
