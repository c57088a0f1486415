import EntityQuery.Query.Basic
import EntityQuery.Query.Operator

/-!
# Compiled queries

`Query.compile` checks a query and puts its clauses into the form that query
text has:

* the kind is there and every operator is one of the seven, in its own spelling;
* a clause on the identity field compares the key with a key literal.

All else is left as it is, and a compiled query compiles to itself.
-/

namespace EntityQuery

/-- A query of which the clauses were checked, and its kind. -/
structure CompiledQuery where
  query : Query
  kind : String

namespace FilterValue

/-- The key literal that a value stands for where keys of the given kind are compared. -/
def toKeyLiteral (kind : String) : FilterValue → KeyLiteral
  | .key k => k
  | .literal v => ⟨kind, .ofJson v⟩
  | .timestamp t => ⟨kind, .name t.offsetText⟩

end FilterValue

namespace Clause

/-- The clause with its operator in its own spelling, comparing keys if it is about the identity
field. -/
def compile (kind : String) (clause : Clause) : Except QueryError Clause :=
  match Operator.read clause.operator with
  | .error e => .error e
  | .ok op =>
    if clause.field = identityField then
      .ok { clause with
        operator := op.text
        field := keyField
        value := .key (clause.value.toKeyLiteral kind) }
    else .ok { clause with operator := op.text }

/-- The clauses compiled one by one, up to the first that cannot be. -/
def compileAll (kind : String) : List Clause → Except QueryError (List Clause)
  | [] => .ok []
  | clause :: clauses =>
    match compile kind clause with
    | .error e => .error e
    | .ok compiled =>
      match compileAll kind clauses with
      | .error e => .error e
      | .ok rest => .ok (compiled :: rest)

end Clause

namespace Query

/-- The query with its clauses checked and put into the form of query text. -/
def compile (q : Query) : Except QueryError CompiledQuery :=
  match q.kind with
  | none => .error .missingTargetKind
  | some kind =>
    match Clause.compileAll kind q.clauses with
    | .error e => .error e
    | .ok clauses => .ok ⟨{ q with clauses }, kind⟩

end Query

end EntityQuery
