import EntityQuery.Gql.Writer
import EntityQuery.Record.Cursor
import EntityQuery.Session.Basic

/-!
# Running queries

A query is compiled before the store is asked for anything, and it is then
submitted once.  There are two ways to run a compiled query, which differ in how
a failure is recorded:

* `CompiledQuery.execute` gives a cursor and records a failure to submit the
  query by an event of its own;
* `CompiledQuery.executeAll` gives all records, within a scope that ends with
  the number of records or with the failure.

`Query.cursor`, `Query.get`, `Query.first` and `Query.find` run a query under
construction.
-/

namespace EntityQuery

variable {σ : Type} [EntityStore σ]

namespace CompiledQuery

/-- The query for a store: its text, in which values may stand, with the namespace and the
timeout. -/
def prepare (compiled : CompiledQuery) : StoreQuery :=
  ⟨compiled.gql, true, compiled.query.ns, compiled.query.timeout⟩

/-- Submits the query to the store once. -/
def submit (compiled : CompiledQuery) (s : Session σ) : Except QueryError Cursor × Session σ :=
  let request := compiled.prepare
  let s := s.logEvent .queryCompiled [("gql", request.gql), ("kind", compiled.kind)]
  match s.runQuery request with
  | (.ok stream, s) => (.ok (.ofStream stream), s)
  | (.error e, s) => (.error (.storeQuery e), s)

/-- Runs the query and gives a cursor. -/
def execute (compiled : CompiledQuery) (s : Session σ) : Except QueryError Cursor × Session σ :=
  match compiled.submit s with
  | (.ok cursor, s) => (.ok cursor, s)
  | (.error e, s) =>
    (.error e,
      s.logEvent .queryFailed [("code", e.code), ("kind", compiled.kind), ("reason", e.message)])

/-- The records of the query up to the first failure, at submission or in the stream. -/
def drain (compiled : CompiledQuery) (s : Session σ) :
    Except QueryError (List Record) × Session σ :=
  match compiled.submit s with
  | (.ok cursor, s) => (cursor.collect.1, s)
  | (.error e, s) => (.error e, s)

/-- Runs the query and gives all records, recording how it goes. -/
def executeAll (compiled : CompiledQuery) (s : Session σ) :
    Except QueryError (List Record) × Session σ :=
  let (scope, s) := s.startScope "QUERY" [("kind", compiled.kind)]
  match compiled.drain s with
  | (.ok records, s) =>
    (.ok records, s.finishScope scope (.complete [("records", toString records.length)]))
  | (.error e, s) => (.error e, s.finishScope scope (.fail e.message))

end CompiledQuery

namespace Query

/-- Runs the query and gives a cursor.  The columns are the fields to return if the query names
none. -/
def cursor (q : Query) (columns : List String) (s : Session σ) :
    Except QueryError Cursor × Session σ :=
  match (q.withColumns columns).compile with
  | .error e => (.error e, s)
  | .ok compiled => compiled.execute s

/-- Runs the query and gives all records. -/
def get (q : Query) (columns : List String) (s : Session σ) :
    Except QueryError (List Record) × Session σ :=
  match (q.withColumns columns).compile with
  | .error e => (.error e, s)
  | .ok compiled => compiled.executeAll s

/-- Runs the query with a limit of one and gives the record, if there is one. -/
def first (q : Query) (columns : List String) (s : Session σ) :
    Except QueryError (Option Record) × Session σ :=
  match (q.limitTo 1).get columns s with
  | (.error e, s) => (.error e, s)
  | (.ok records, s) => (.ok records.head?, s)

/-- The query with the further condition that the entity has the given id. -/
def withIdentity (q : Query) (id : FilterValue) : Query := q.filterEq identityField id

/-- Looks up one entity by its id. -/
def find (q : Query) (id : FilterValue) (columns : List String) (s : Session σ) :
    Except QueryError (Option Record) × Session σ :=
  (q.withIdentity id).first columns s

end Query

end EntityQuery
