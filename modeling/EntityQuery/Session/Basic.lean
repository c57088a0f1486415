import EntityQuery.Journal.Scope
import EntityQuery.Store.Client

/-!
# Sessions

A session is what a query works on: a store, and the journal of what happens.
Work on a session gives an answer and the session after it.  The journal is
written only; no answer depends on it.
-/

namespace EntityQuery

/-- A store, and the journal of what happens. -/
structure Session (σ : Type) where
  store : σ
  journal : Journal

namespace Session

variable {σ : Type}

/-- Records an event of the library. -/
def logEvent (s : Session σ) (event : Event) (fields : EventFields) : Session σ :=
  { s with journal := s.journal.logEvent event fields }

/-- Begins a scope. -/
def startScope (s : Session σ) (name : String) (fields : EventFields) : Scope × Session σ :=
  let (scope, journal) := Scope.start name fields s.journal
  (scope, { s with journal })

/-- Ends a scope. -/
def finishScope (s : Session σ) (scope : Scope) (ending : Scope.Ending) : Session σ :=
  { s with journal := scope.finish ending s.journal }

variable [EntityStore σ]

/-- Asks the store for an id. -/
def allocate (s : Session σ) (key : Key) : Except StoreError Key × Session σ :=
  let (answer, store) := EntityStore.allocate key s.store
  (answer, { s with store })

/-- Asks the store to keep a new entity. -/
def insert (s : Session σ) (entity : Entity) : Except StoreError Key × Session σ :=
  let (answer, store) := EntityStore.insert entity s.store
  (answer, { s with store })

/-- Asks the store to run a query. -/
def runQuery (s : Session σ) (query : StoreQuery) : Except StoreError EntityStream × Session σ :=
  let (answer, store) := EntityStore.runQuery query s.store
  (answer, { s with store })

end Session

end EntityQuery
