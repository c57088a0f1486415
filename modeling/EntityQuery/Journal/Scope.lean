import EntityQuery.Journal.Basic

/-!
# Scopes

A scope is a piece of work that is recorded by an event at its begin and one at
its end.  It is completed, or it fails with a reason, or it is dropped; a scope
that was completed or has failed may be dropped without another event.
-/

namespace EntityQuery

/-- A piece of work under way. -/
structure Scope where
  name : String
  fields : EventFields
  /-- Whether the end of the work was recorded. -/
  isCompleted : Bool

namespace Scope

/-- The scope of a piece of work that begins, and the journal with that event. -/
def start (name : String) (fields : EventFields) (journal : Journal) : Scope × Journal :=
  (⟨name, fields, false⟩, journal.log .info (name ++ "_BEGIN") fields)

/-- Records that the work is done, with more fields. -/
def complete (scope : Scope) (extra : EventFields) (journal : Journal) : Scope × Journal :=
  ({ scope with isCompleted := true },
    journal.record
      { severity := .info
        event := scope.name ++ "_COMPLETE"
        fields := scope.fields ++ extra
        timed := true })

/-- Records that the work has failed, and why. -/
def fail (scope : Scope) (reason : String) (journal : Journal) : Scope × Journal :=
  ({ scope with isCompleted := true },
    journal.log .error (scope.name ++ "_ERROR") (scope.fields ++ [("reason", reason)]))

/-- Gives the scope up.  If its end was not recorded, that is recorded as a failure. -/
def drop (scope : Scope) (journal : Journal) : Journal :=
  if scope.isCompleted then journal
  else journal.log .error (scope.name ++ "_ERROR") [("reason", "scope dropped without completion")]

/-- How a piece of work ends. -/
inductive Ending where
  | complete (extra : EventFields)
  | fail (reason : String)
  | drop

/-- Ends a scope and gives it up. -/
def finish (scope : Scope) (ending : Ending) (journal : Journal) : Journal :=
  match ending with
  | .complete extra =>
    let (scope, journal) := scope.complete extra journal
    scope.drop journal
  | .fail reason =>
    let (scope, journal) := scope.fail reason journal
    scope.drop journal
  | .drop => scope.drop journal

end Scope

end EntityQuery
