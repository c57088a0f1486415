import EntityQuery.Query.Clause

/-!
# Queries

A query is what a caller has said so far about the entities to find, or about
the entities to insert.  Each function adds one thing to it and none of them
fails: a query is checked when it is compiled.
-/

namespace EntityQuery

/-- A query under construction. -/
structure Query where
  /-- The kind of the entities. -/
  kind : Option String
  /-- The namespace of the entities; none for the default one. -/
  ns : Option String
  /-- The filter clauses in the order in which they were added. -/
  clauses : List Clause
  /-- The fields to return, each once; all of them if there are none. -/
  projections : List String
  /-- The fields to sort by, the most significant first. -/
  orders : List SortSpec
  limit : Option UInt64
  offset : Option UInt64
  /-- The fields that are not to be indexed on insertion, each once. -/
  excluded : List String
  /-- Seconds that the store may take. -/
  timeout : Option UInt64

namespace Query

/-- The query about which nothing was said. -/
def empty : Query := ⟨none, none, [], [], [], none, none, [], none⟩

instance : Inhabited Query := ⟨empty⟩

/-- A list of fields with more fields after it, but for those that it has already. -/
def addFields (fields more : List String) : List String :=
  more.foldl (fun fields field => if fields.contains field then fields else fields ++ [field])
    fields

/-- Names the kind of the entities. -/
def ofKind (q : Query) (kind : String) : Query := { q with kind := some kind }

/-- Names the namespace of the entities. -/
def inNamespace (q : Query) (ns : Option String) : Query := { q with ns }

/-- Adds a clause. -/
def filterBy (q : Query) (clause : Clause) : Query :=
  { q with clauses := q.clauses ++ [clause] }

/-- Adds a clause that has to hold with those before it. -/
def filter (q : Query) (field operator : String) (value : FilterValue) : Query :=
  q.filterBy ⟨field, operator, value, .and⟩

/-- Adds a clause that may hold instead of those before it. -/
def orFilter (q : Query) (field operator : String) (value : FilterValue) : Query :=
  q.filterBy ⟨field, operator, value, .or⟩

/-- Adds an equality that has to hold with the clauses before it. -/
def filterEq (q : Query) (field : String) (value : FilterValue) : Query :=
  q.filter field "=" value

/-- Adds fields to return. -/
def project (q : Query) (fields : List String) : Query :=
  { q with projections := addFields q.projections fields }

/-- Limits the number of entities. -/
def limitTo (q : Query) (limit : UInt64) : Query := { q with limit := some limit }

/-- Leaves out entities at the front. -/
def startAt (q : Query) (offset : UInt64) : Query := { q with offset := some offset }

/-- Adds a field to sort by. -/
def orderBy (q : Query) (field : String) (direction : Direction) : Query :=
  { q with orders := q.orders ++ [⟨field, direction⟩] }

/-- Adds fields that are not to be indexed on insertion. -/
def exclude (q : Query) (fields : List String) : Query :=
  { q with excluded := addFields q.excluded fields }

/-- Sets the seconds that the store may take. -/
def withTimeout (q : Query) (seconds : UInt64) : Query := { q with timeout := some seconds }

/-- Whether all fields are returned. -/
def selectsAll (q : Query) : Bool := q.projections.isEmpty

/-- The fields to return where the query names none. -/
def withColumns (q : Query) (columns : List String) : Query :=
  if q.selectsAll then q.project columns else q

end Query

end EntityQuery
