import EntityQuery.CommandLine.Error
import EntityQuery.Connection.Basic
import EntityQuery.Json.Source
import EntityQuery.Session.Insertion

/-!
# Fixtures

Fixtures are entities that a store is filled with before a query runs: a JSON
object that has an array of property objects for every kind.  The kinds are
inserted in ascending order.  The fixtures of a kind are looked at before the
first of them is inserted, so a kind is inserted from its begin or not at all.
-/

namespace EntityQuery

namespace Fixtures

/-- The fixtures of every kind, in ascending order of the kinds. -/
def ofContent (content : Except String String) : Except CommandError Properties :=
  match content with
  | .error detail => .error (.unreadableFixtures detail)
  | .ok s =>
    match Json.read? s with
    | some (.object kinds) => .ok kinds
    | _ => .error .invalidFixtures

/-- The fixtures of one kind. -/
def rows (kind : String) (v : Json) : Except CommandError (List Properties) :=
  match v.array? with
  | none => .error (.fixturesNotArray kind)
  | some items =>
    match items.mapM Json.object? with
    | none => .error (.fixturesNotObjects kind)
    | some rows => .ok rows

end Fixtures

namespace Connection

variable {σ : Type} [EntityStore σ]

/-- Inserts the fixtures of one kind and answers with their number. -/
def seedKind (connection : Connection) (kind : String) (v : Json) (s : Session σ) :
    Except CommandError Nat × Session σ :=
  match Fixtures.rows kind v with
  | .error e => (.error e, s)
  | .ok rows =>
    match (connection.table kind).insert rows s with
    | (.error e, s) => (.error (.query e), s)
    | (.ok ids, s) => (.ok ids.length, s)

/-- Inserts the fixtures kind by kind up to the first failure, and answers with their number. -/
def seedKinds (connection : Connection) :
    Properties → Session σ → Except CommandError Nat × Session σ
  | [], s => (.ok 0, s)
  | (kind, v) :: kinds, s =>
    match connection.seedKind kind v s with
    | (.error e, s) => (.error e, s)
    | (.ok n, s) =>
      match connection.seedKinds kinds s with
      | (.error e, s) => (.error e, s)
      | (.ok m, s) => (.ok (n + m), s)

/-- Inserts the fixtures of a file of which the content, or what kept it from being read, is
given. -/
def seed (connection : Connection) (content : Except String String) (s : Session σ) :
    Except CommandError Nat × Session σ :=
  match Fixtures.ofContent content with
  | .error e => (.error e, s)
  | .ok kinds => connection.seedKinds kinds s

end Connection

end EntityQuery
