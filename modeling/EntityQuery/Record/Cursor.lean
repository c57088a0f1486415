import EntityQuery.Query.Error
import EntityQuery.Record.Basic
import EntityQuery.Store.Client

/-!
# Cursors

A cursor reads the stream of a query once, record by record.  A failure in the
stream does not end it: the caller may go on behind it.  `Cursor.collect` stops
at the first failure and consumes nothing that follows.
-/

namespace EntityQuery

/-- A stream of entities that is being read. -/
structure Cursor where
  /-- What is not read yet. -/
  rest : EntityStream
  /-- The number of records that were read. -/
  yielded : Nat

namespace Cursor

/-- The cursor at the begin of a stream. -/
def ofStream (stream : EntityStream) : Cursor := ⟨stream, 0⟩

/-- The next record or failure, and the cursor behind it; none at the end. -/
def next? : Cursor → Option (Except QueryError Record × Cursor)
  | ⟨[], _⟩ => none
  | ⟨.ok e :: rest, yielded⟩ => some (.ok (.ofEntity e), ⟨rest, yielded + 1⟩)
  | ⟨.error e :: rest, yielded⟩ => some (.error (.storeQuery e), ⟨rest, yielded⟩)

/-- The records of a stream up to its end or its first failure, and what follows that. -/
def collectStream : EntityStream → Nat → Except QueryError (List Record) × Cursor
  | [], yielded => (.ok [], ⟨[], yielded⟩)
  | .error e :: rest, yielded => (.error (.storeQuery e), ⟨rest, yielded⟩)
  | .ok e :: rest, yielded =>
    match collectStream rest (yielded + 1) with
    | (.ok records, cursor) => (.ok (.ofEntity e :: records), cursor)
    | (.error e, cursor) => (.error e, cursor)

/-- The records up to the end or the first failure, and the cursor behind that. -/
def collect (cursor : Cursor) : Except QueryError (List Record) × Cursor :=
  collectStream cursor.rest cursor.yielded

end Cursor

end EntityQuery
