import EntityQuery.Proofs.Session.Answers

/-!
# Queries that a store refuses to read

A query that compiles is refused by a store in memory for three reasons: its limit or its
offset is beyond the signed integers of 64 bits, or it compares a field with a timestamp
of which the year has not four digits and is written with a sign.  Any other is answered.

* Clauses.  `Clause.HasSignedYear` is the third reason, said of a clause as it was written;
  `Clause.isReadable_compileAll` follows it through compiling.
* Queries.  `Query.isReadable_of_compile` says when the text of a query is read.
* The result.  `Query.runQuery_refused_iff`.
-/

namespace EntityQuery

namespace FilterValue

/-- Only a timestamp of which the year has not four digits cannot be read. -/
theorem isReadable_eq_false_iff {value : FilterValue} :
    value.isReadable = false ↔ ∃ t, value = .timestamp t ∧ ¬(0 ≤ t.year ∧ t.year ≤ 9999) := by
  cases value with
  | timestamp t =>
    simp [isReadable, Instant.hasFourDigitYear]
  | literal | key => simp [isReadable]

end FilterValue

namespace Clause

/-- The clause compares a field other than the identity field with a timestamp of a year before 0
or after 9999, which is written with a sign. -/
def HasSignedYear (clause : Clause) : Prop :=
  clause.field ≠ identityField ∧ ∃ t, clause.value = .timestamp t ∧ ¬(0 ≤ t.year ∧ t.year ≤ 9999)

/-- Compiling puts a key in the place of a timestamp on the identity field, and keeps the value of
any other clause. -/
theorem CompilesTo.isReadable_eq_false_iff {kind : String} {clause compiled : Clause}
    (h : CompilesTo kind clause compiled) :
    compiled.value.isReadable = false ↔ clause.HasSignedYear := by
  by_cases hfield : clause.field = identityField
  · obtain ⟨-, k, -, hvalue⟩ := h.identity hfield
    simp [hvalue, FilterValue.isReadable, HasSignedYear, hfield]
  · obtain ⟨-, hvalue⟩ := h.other hfield
    rw [hvalue, FilterValue.isReadable_eq_false_iff, HasSignedYear]
    exact (and_iff_right hfield).symm

theorem isReadable_compileAll {kind : String} {clauses compiled : List Clause}
    (h : compileAll kind clauses = .ok compiled) :
    compiled.all (·.value.isReadable) = false ↔ ∃ clause ∈ clauses, clause.HasSignedYear := by
  have hall := compileAll_eq_ok_iff.1 h
  clear h
  induction hall with
  | nil => simp
  | cons hfirst _ ih =>
    rw [List.all_cons, Bool.and_eq_false_iff, hfirst.isReadable_eq_false_iff,
      List.exists_mem_cons_iff]
    exact or_congr_right ih

end Clause

namespace CompiledQuery

theorem countIsReadable_eq_false_iff {count : Option UInt64} :
    countIsReadable count = false ↔ ∃ n ∈ count, 9223372036854775807 < n.toNat := by
  cases count with
  | none => simp [countIsReadable]
  | some n => simp [countIsReadable]

/-- A store that answers refuses the text of a query if it cannot be read, and carries out its
statement otherwise. -/
theorem runQuery_prepare {compiled : CompiledQuery} (h : compiled.IsWritten)
    {store : MemoryStore} (hup : store.isUnavailable = false) :
    if compiled.isReadable = true then
      (store.runQuery compiled.prepare).1 =
        .ok ((compiled.statement.run (store.shelf (compiled.query.ns, compiled.kind))).map .ok)
    else ∃ reason, (store.runQuery compiled.prepare).1 = .error (.invalidQuery reason) := by
  have hanswer := answer_prepare h store
  have hread := toOption_parse_gql h
  have hrun : (store.runQuery compiled.prepare).1 = store.answer compiled.prepare := rfl
  rw [hrun]
  by_cases hreadable : compiled.isReadable = true
  · rw [if_pos hreadable]
    rw [if_pos ⟨hup, hreadable⟩] at hanswer
    cases hstore : store.answer compiled.prepare with
    | ok stream =>
      rw [hstore] at hanswer
      cases hanswer
      rfl
    | error e => rw [hstore] at hanswer; cases hanswer
  · rw [if_neg hreadable]
    rw [if_neg hreadable] at hread
    have hgql : compiled.prepare.gql = compiled.gql := rfl
    rw [MemoryStore.answer, hgql, hup]
    cases hparse : Gql.parse compiled.gql with
    | ok statement => rw [hparse] at hread; cases hread
    | error e => exact ⟨e.message, rfl⟩

end CompiledQuery

namespace Query

/-- Compiling keeps the counts, and compiles the clauses. -/
theorem compile_parts {q : Query} {compiled : CompiledQuery} (h : q.compile = .ok compiled) :
    compiled.query.limit = q.limit ∧ compiled.query.offset = q.offset ∧
      Clause.compileAll compiled.kind q.clauses = .ok compiled.query.clauses := by
  obtain ⟨-, clauses, hquery, hall⟩ := compile_eq_ok_iff.1 h
  rw [hquery]
  exact ⟨rfl, rfl, Clause.compileAll_eq_ok_iff.2 hall⟩

/-- The text of a query that compiles cannot be read if a count in it is too large or a year has a
sign. -/
theorem isReadable_of_compile {q : Query} {compiled : CompiledQuery}
    (h : q.compile = .ok compiled) :
    compiled.isReadable = false ↔
      (∃ n ∈ q.limit, 9223372036854775807 < n.toNat) ∨
      (∃ n ∈ q.offset, 9223372036854775807 < n.toNat) ∨
      ∃ clause ∈ q.clauses, clause.HasSignedYear := by
  obtain ⟨hlimit, hoffset, hclauses⟩ := compile_parts h
  rw [CompiledQuery.isReadable, Bool.and_eq_false_iff, Bool.and_eq_false_iff,
    Clause.isReadable_compileAll hclauses, CompiledQuery.countIsReadable_eq_false_iff,
    CompiledQuery.countIsReadable_eq_false_iff, hlimit, hoffset, or_assoc, or_comm, or_assoc]

/-- A store that answers refuses a query that compiles if and only if its limit or its offset is
no signed integer of 64 bits, or it compares a field with a timestamp of which the year has not
four digits.  To any other query it answers with what the statement returns. -/
theorem runQuery_refused_iff {q : Query} {compiled : CompiledQuery}
    (hcompile : q.compile = .ok compiled) {store : MemoryStore}
    (hup : store.isUnavailable = false) :
    ((∃ reason, (store.runQuery compiled.prepare).1 = .error (.invalidQuery reason)) ↔
      (∃ n ∈ q.limit, 9223372036854775807 < n.toNat) ∨
      (∃ n ∈ q.offset, 9223372036854775807 < n.toNat) ∨
      ∃ clause ∈ q.clauses, clause.HasSignedYear) ∧
    ((∀ reason, (store.runQuery compiled.prepare).1 ≠ .error (.invalidQuery reason)) →
      (store.runQuery compiled.prepare).1 =
        .ok ((compiled.statement.run
          (store.shelf (compiled.query.ns, compiled.kind))).map .ok)) := by
  have hrun := CompiledQuery.runQuery_prepare (CompiledQuery.isWritten_of_compile hcompile) hup
  rw [← isReadable_of_compile hcompile]
  by_cases hreadable : compiled.isReadable = true
  · rw [if_pos hreadable] at hrun
    rw [hrun, hreadable]
    simp
  · rw [if_neg hreadable] at hrun
    obtain ⟨reason, hreason⟩ := hrun
    refine ⟨⟨fun _ => Bool.eq_false_iff.2 hreadable, fun _ => ⟨reason, hreason⟩⟩, ?_⟩
    intro hnone
    exact absurd hreason (hnone reason)

/-- The query for the widgets, without a bound that matters. -/
def allWidgets : Query :=
  ⟨some "Widget", none, [], [], [], some 9223372036854775808, none, [], none⟩

/-- The empty store refuses a query of which the limit is the least that is no signed integer. -/
theorem runQuery_refused_iff_limit :
    ∃ compiled, allWidgets.compile = .ok compiled ∧ MemoryStore.empty.isUnavailable = false ∧
      ∃ reason, (MemoryStore.empty.runQuery compiled.prepare).1 =
        .error (.invalidQuery reason) := by
  have hcompile : allWidgets.compile = .ok ⟨allWidgets, "Widget"⟩ := rfl
  have hlimit : ∃ n ∈ allWidgets.limit, 9223372036854775807 < n.toNat := ⟨_, rfl, by decide⟩
  exact ⟨_, hcompile, rfl, (runQuery_refused_iff hcompile rfl).1.2 (.inl hlimit)⟩

end Query

end EntityQuery
