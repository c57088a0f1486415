import EntityQuery.Connection.Basic
import EntityQuery.Session.Execution

/-!
# Requests

A request says in one piece what a query is to be.  It is added to a query under
construction, in a fixed order, and the result is shown as query text or run.

A request that finds one entity by its id answers with the record or null, and
every other request with a list of records.
-/

namespace EntityQuery

/-- What a query is to be. -/
structure Request where
  kind : Option String
  filters : List Clause
  /-- The fields to return; all of them if there are none. -/
  select : List String
  orders : List SortSpec
  limit : Option UInt64
  offset : Option UInt64
  /-- The id of the one entity to find. -/
  find : Option Json
  timeout : Option UInt64

namespace Request

/-- A query with something added to it, if there is anything to add. -/
def given {α : Type} (value : Option α) (add : Query → α → Query) (q : Query) : Query :=
  match value with
  | some a => add q a
  | none => q

/-- The query with all that the request says but the id to find. -/
def addSettings (request : Request) (q : Query) : Query :=
  let q := given request.kind Query.ofKind q
  let q := request.filters.foldl Query.filterBy q
  let q := q.project request.select
  let q := request.orders.foldl (fun q spec => q.orderBy spec.field spec.direction) q
  let q := given request.limit Query.limitTo q
  let q := given request.offset Query.startAt q
  given request.timeout Query.withTimeout q

/-- The query with all that the request says.  An id to find is one more condition, with a limit
of one. -/
def addTo (request : Request) (q : Query) : Query :=
  given request.find (fun q id => (q.filterEq identityField (.literal id)).limitTo 1)
    (request.addSettings q)

/-- The text of the query that the request says. -/
def render (request : Request) : Except QueryError String := (request.addTo Query.empty).toGql

/-- Runs the query that the request says on a connection. -/
def execute {σ : Type} [EntityStore σ] (request : Request) (connection : Connection)
    (s : Session σ) : Except QueryError Json × Session σ :=
  let q := request.addTo connection.query
  match request.find with
  | some _ =>
    match q.first [] s with
    | (.error e, s) => (.error e, s)
    | (.ok none, s) => (.ok .null, s)
    | (.ok (some record), s) => (.ok record.toJson, s)
  | none =>
    match q.get [] s with
    | (.error e, s) => (.error e, s)
    | (.ok records, s) => (.ok (.array (records.map Record.toJson)), s)

end Request

end EntityQuery
