import EntityQuery.Proofs.Gql.Meaning
import Mathlib.Data.List.SplitBy

/-!
# Queries read back

The text of a compiled query is read as the query that was written.
`Query.parse_gql_of_compile` says so of every part of the statement.  What comes back of
the clauses is given by `Clause.groups`, which splits them as they are joined, and by
`FilterValue.flat`, which gives the operand of each.

What the text gives back of a query that does not meet the conditions is in
`CompiledQuery.toOption_parse_gql`.
-/

namespace EntityQuery

namespace FilterValue

/-- The operand of a value, with the text of its JSON in the place of every object. -/
def flat : FilterValue → Operand
  | .literal v => .value v.flat
  | .timestamp t => .timestamp t
  | .key k => .key [(k.kind, k.id)]

/-- Whether the value is written without loss: a timestamp has a year of four digits, and the
integers of a literal are signed integers of 64 bits. -/
def isExact : FilterValue → Bool
  | .literal v => v.fitsInt64
  | .timestamp t => t.hasFourDigitYear
  | .key _ => true

theorem isReadable_of_isExact {value : FilterValue} (h : value.isExact = true) :
    value.isReadable = true := by
  cases value with
  | timestamp t => exact h
  | literal | key => rfl

theorem operand_of_isExact {value : FilterValue} (h : value.isExact = true) :
    value.operand = value.flat := by
  cases value with
  | literal v => exact congrArg Operand.value (Json.reread_eq_flat h)
  | timestamp | key => rfl

end FilterValue

namespace Clause

/-- The parts of the conditions are those of the clauses, group by group. -/
theorem map_condition_parts {groups : List (List Clause)}
    (h : ∀ clause ∈ groups.flatten, clause.IsWritten ∧ clause.value.isExact = true) :
    (groups.map (·.map condition)).map
        (·.map fun condition => (condition.field, condition.op.text, condition.operand)) =
      groups.map (·.map fun clause => (clause.field, clause.operator, clause.value.flat)) := by
  rw [List.map_map]
  apply List.map_congr_left
  intro group hgroup
  show (group.map condition).map _ = _
  rw [List.map_map]
  apply List.map_congr_left
  intro clause hclause
  obtain ⟨hwritten, hexact⟩ := h clause (List.mem_flatten.2 ⟨group, hgroup, hclause⟩)
  show (clause.field, clause.op.text, clause.value.operand) = _
  rw [← hwritten, FilterValue.operand_of_isExact hexact]

end Clause

namespace Query

theorem countIsReadable_of_le {count : Option UInt64}
    (h : ∀ n ∈ count, n.toNat ≤ 9223372036854775807) : CompiledQuery.countIsReadable count = true := by
  cases count with
  | none => rfl
  | some n =>
    have hn := h n rfl
    exact decide_eq_true (by omega)

/-- The text of every query that compiles is read as the query: the fields to return, the kind,
the sorting and the counts are those of the query, and the conditions are its clauses in order,
in groups that begin where a clause is joined by `OR`. -/
theorem parse_gql_of_compile {q : Query} {compiled : CompiledQuery}
    (hcompile : q.compile = .ok compiled)
    (hlimit : ∀ n ∈ q.limit, n.toNat ≤ 9223372036854775807)
    (hoffset : ∀ n ∈ q.offset, n.toNat ≤ 9223372036854775807)
    (hexact : ∀ clause ∈ compiled.query.clauses, clause.value.isExact = true) :
    ∃ s, Gql.parse compiled.gql = .ok s ∧
      s.projection = compiled.query.projections ∧
      s.kind = compiled.kind ∧
      s.orders = compiled.query.orders ∧
      s.limit = compiled.query.limit ∧
      s.offset = compiled.query.offset ∧
      s.groups.map (·.map fun condition =>
          (condition.field, condition.op.text, condition.operand)) =
        (Clause.groups compiled.query.clauses).map (·.map fun clause =>
          (clause.field, clause.operator, clause.value.flat)) := by
  have hwritten := CompiledQuery.isWritten_of_compile hcompile
  have hcounts : compiled.query.limit = q.limit ∧ compiled.query.offset = q.offset := by
    unfold compile at hcompile
    split at hcompile
    · cases hcompile
    · split at hcompile
      · cases hcompile
      · cases hcompile
        exact ⟨rfl, rfl⟩
  have hclauses : compiled.query.clauses.all (·.value.isReadable) = true :=
    List.all_eq_true.2 fun clause hmem => FilterValue.isReadable_of_isExact (hexact clause hmem)
  have hreadable : compiled.isReadable = true := by
    rw [CompiledQuery.isReadable, hclauses, hcounts.1, hcounts.2, countIsReadable_of_le hlimit,
      countIsReadable_of_le hoffset]
    rfl
  refine ⟨compiled.statement, CompiledQuery.parse_gql hwritten hreadable, rfl, rfl, rfl, rfl, rfl, ?_⟩
  apply Clause.map_condition_parts
  intro clause hmem
  rw [Clause.groups, List.flatten_splitBy] at hmem
  exact ⟨hwritten clause hmem, hexact clause hmem⟩

/-- A query of which the kind is a keyword, with quotes in a field, an object inside an array, a
leap second and an id. -/
theorem parse_gql_of_compile_escaped :
    ∃ compiled s,
      compile ⟨some "from", none,
        [⟨"it's \x60q\\", " $<= ", .literal (.array [.object [("k", .null)], .ofInt64 (-5)]), .or⟩,
          ⟨"at", "!=", .timestamp ⟨59, 1500000000, by decide, by decide⟩, .or⟩,
          ⟨"id", "=", .literal (.ofInt64 7), .and⟩],
        ["", "select"], [⟨"n", .descending⟩], some 5, none, [], none⟩ = .ok compiled ∧
      Gql.parse compiled.gql = .ok s ∧
      s.projection = ["", "select"] ∧
      s.kind = "from" ∧
      s.orders = [⟨"n", .descending⟩] ∧
      s.limit = some 5 ∧
      s.offset = none ∧
      s.groups.map (·.map fun condition =>
          (condition.field, condition.op.text, condition.operand)) =
        [[("it's \x60q\\", "<=",
            .value (.array [.string (Json.object [("k", .null)]).text, .ofInt64 (-5)]))],
          [("at", "!=", .timestamp ⟨59, 1500000000, by decide, by decide⟩),
            ("__key__", "=", .key [("from", .number 7)])]] := by
  obtain ⟨s, hparse, hprojection, hkind, horders, hlimit, hoffset, hgroups⟩ :=
    parse_gql_of_compile (q := ⟨some "from", none,
        [⟨"it's \x60q\\", " $<= ", .literal (.array [.object [("k", .null)], .ofInt64 (-5)]), .or⟩,
          ⟨"at", "!=", .timestamp ⟨59, 1500000000, by decide, by decide⟩, .or⟩,
          ⟨"id", "=", .literal (.ofInt64 7), .and⟩],
        ["", "select"], [⟨"n", .descending⟩], some 5, none, [], none⟩) rfl (by simp) (by simp)
      (by decide)
  exact ⟨_, s, rfl, hparse, hprojection, hkind, horders, hlimit, hoffset, hgroups⟩

end Query

end EntityQuery
