import EntityQuery.Proofs.Gql.Meaning
import EntityQuery.Proofs.Store.Run
import EntityQuery.Session.Execution

/-!
# What queries answer

What a query on a store in memory answers, said without the text that lies between the
query and the store.

* Running.  `CompiledQuery.executeAll_eq` says what becomes of the answer of any store, and
  `CompiledQuery.executeAll_eq_ok_iff` that a query gives records if a store in memory answers and
  the text is read, and that they are those of the statement.
* Looking up.  `Query.find_eq_ok_iff` is the same for a look-up by id, and
  `Query.compile_lookup_iff` says what it is compiled to.
-/

namespace EntityQuery

/-! ## Running -/

/-- A stream without failures is collected whole. -/
theorem Cursor.collectStream_ok (entities : List Entity) (yielded : Nat) :
    (collectStream (entities.map .ok) yielded).1 = .ok (entities.map Record.ofEntity) := by
  induction entities generalizing yielded with
  | nil => rfl
  | cons e entities ih =>
    have hrest := ih (yielded + 1)
    rw [List.map_cons, collectStream]
    split
    · next records cursor hcollect =>
      rw [hcollect] at hrest
      cases hrest
      rfl
    · next error cursor hcollect =>
      rw [hcollect] at hrest
      cases hrest

namespace CompiledQuery

/-- What the answer of a store comes to if the stream is not read. -/
def opened : Except StoreError EntityStream → Except QueryError Cursor
  | .ok stream => .ok (.ofStream stream)
  | .error e => .error (.storeQuery e)

/-- What the answer of a store comes to: the records of its stream up to the first failure. -/
def collected : Except StoreError EntityStream → Except QueryError (List Record)
  | .ok stream => (Cursor.ofStream stream).collect.1
  | .error e => .error (.storeQuery e)

section

variable {σ : Type} [EntityStore σ] {s : Session σ} {answer : Except StoreError EntityStream}
  {store : σ}

/-- The event of a query that is about to be submitted. -/
def announcement (compiled : CompiledQuery) : Entry :=
  { severity := .trace
    event := "QUERY_COMPILED"
    fields := [("gql", compiled.gql), ("kind", compiled.kind)] }

/-- A query is announced and then submitted once. -/
theorem submit_eq_announced (compiled : CompiledQuery)
    (h : EntityStore.runQuery compiled.prepare s.store = (answer, store)) :
    compiled.submit s = (opened answer, ⟨store, s.journal.record compiled.announcement⟩) := by
  have hannounced : s.logEvent .queryCompiled [("gql", compiled.prepare.gql),
      ("kind", compiled.kind)] = ⟨s.store, s.journal.record compiled.announcement⟩ := rfl
  have hrun : Session.runQuery ⟨s.store, s.journal.record compiled.announcement⟩
      compiled.prepare = (answer, ⟨store, s.journal.record compiled.announcement⟩) := by
    rw [Session.runQuery]
    simp only [h]
  unfold submit
  simp only [hannounced, hrun]
  cases answer <;> rfl

theorem submit_eq (compiled : CompiledQuery)
    (h : EntityStore.runQuery compiled.prepare s.store = (answer, store)) :
    ∃ journal, compiled.submit s = (opened answer, ⟨store, journal⟩) :=
  ⟨_, submit_eq_announced compiled h⟩

/-- A cursor is opened by submitting the query once. -/
theorem execute_eq (compiled : CompiledQuery)
    (h : EntityStore.runQuery compiled.prepare s.store = (answer, store)) :
    ∃ journal, compiled.execute s = (opened answer, ⟨store, journal⟩) := by
  obtain ⟨journal, hsubmit⟩ := submit_eq compiled h
  rw [execute, hsubmit]
  cases answer <;> exact ⟨_, rfl⟩

theorem drain_eq (compiled : CompiledQuery)
    (h : EntityStore.runQuery compiled.prepare s.store = (answer, store)) :
    ∃ journal, compiled.drain s = (collected answer, ⟨store, journal⟩) := by
  obtain ⟨journal, hsubmit⟩ := submit_eq compiled h
  rw [drain, hsubmit]
  cases answer <;> exact ⟨_, rfl⟩

/-- A query is submitted once, whatever the store, and the scope around it changes nothing about
its answer. -/
theorem executeAll_eq (compiled : CompiledQuery)
    (h : EntityStore.runQuery compiled.prepare s.store = (answer, store)) :
    ∃ journal, compiled.executeAll s = (collected answer, ⟨store, journal⟩) := by
  obtain ⟨journal, hdrain⟩ :=
    drain_eq compiled (s := (s.startScope "QUERY" [("kind", compiled.kind)]).2) h
  rw [executeAll]
  simp only [hdrain]
  cases collected answer with
  | ok records => exact ⟨_, rfl⟩
  | error e => exact ⟨_, rfl⟩

end

theorem executeAll_fst (compiled : CompiledQuery) (s : Session MemoryStore) :
    (compiled.executeAll s).1 = collected (s.store.answer compiled.prepare) := by
  obtain ⟨journal, hall⟩ := executeAll_eq compiled
    (show EntityStore.runQuery compiled.prepare s.store =
      (s.store.answer compiled.prepare, _) from rfl)
  rw [hall]

/-- A store that answers reads the text of a query as its statement. -/
theorem answer_prepare {compiled : CompiledQuery} (h : compiled.IsWritten) (store : MemoryStore) :
    (store.answer compiled.prepare).toOption =
      if store.isUnavailable = false ∧ compiled.isReadable = true then
        some ((compiled.statement.run
          (store.shelf (compiled.query.ns, compiled.kind))).map .ok)
      else none := by
  have hparse := toOption_parse_gql h
  have hgql : compiled.prepare.gql = compiled.gql := rfl
  have hallows : compiled.prepare.allowsLiterals = true := rfl
  rw [MemoryStore.answer, hgql, hallows]
  by_cases hdown : store.isUnavailable = true
  · rw [if_pos hdown, if_neg (by simp [hdown])]
    rfl
  · rw [if_neg hdown]
    by_cases hreadable : compiled.isReadable = true
    · rw [if_pos ⟨Bool.eq_false_iff.2 hdown, hreadable⟩]
      rw [parse_gql h hreadable]
      simp only [Bool.not_true, Bool.and_false, Bool.false_eq_true, if_false]
      rfl
    · rw [if_neg (by simp [hreadable])]
      rw [if_neg hreadable] at hparse
      cases hread : Gql.parse compiled.gql with
      | error e => rfl
      | ok statement => rw [hread] at hparse; cases hparse

/-- A query gives records if the store answers and the text of the query is read: those of the
entities that its statement returns. -/
theorem executeAll_eq_ok_iff {compiled : CompiledQuery} (h : compiled.IsWritten)
    {s : Session MemoryStore} {records : List Record} :
    (compiled.executeAll s).1 = .ok records ↔
      s.store.isUnavailable = false ∧ compiled.isReadable = true ∧
        records = (compiled.statement.run
          (s.store.shelf (compiled.query.ns, compiled.kind))).map Record.ofEntity := by
  have hanswer := answer_prepare h s.store
  rw [executeAll_fst]
  by_cases hcan : s.store.isUnavailable = false ∧ compiled.isReadable = true
  · rw [if_pos hcan] at hanswer
    cases hstream : s.store.answer compiled.prepare with
    | error e => rw [hstream] at hanswer; cases hanswer
    | ok stream =>
      rw [hstream] at hanswer
      cases hanswer
      have hcollect := Cursor.collectStream_ok
        (compiled.statement.run (s.store.shelf (compiled.query.ns, compiled.kind))) 0
      simp only [collected, Cursor.collect, Cursor.ofStream, hcollect]
      constructor
      · intro heq
        cases heq
        exact ⟨hcan.1, hcan.2, rfl⟩
      · rintro ⟨-, -, rfl⟩
        rfl
  · rw [if_neg hcan] at hanswer
    cases hstream : s.store.answer compiled.prepare with
    | ok stream => rw [hstream] at hanswer; cases hanswer
    | error e =>
      constructor
      · intro heq
        cases heq
      · rintro ⟨hup, hreadable, -⟩
        exact absurd ⟨hup, hreadable⟩ hcan

end CompiledQuery

/-! ## Looking up -/

namespace Clause

theorem compileAll_concat {kind : String} {clauses compiled : List Clause}
    (h : compileAll kind clauses = .ok compiled) {clause last : Clause}
    (hlast : compile kind clause = .ok last) :
    compileAll kind (clauses ++ [clause]) = .ok (compiled ++ [last]) := by
  have hboth := List.rel_append (compileAll_eq_ok_iff.1 h)
    (.cons (compile_eq_ok_iff.1 hlast) .nil)
  exact compileAll_eq_ok_iff.2 hboth

theorem compileAll_concat_error {kind : String} {clauses : List Clause} {e : QueryError}
    (h : compileAll kind clauses = .error e) (clause : Clause) :
    compileAll kind (clauses ++ [clause]) = .error e := by
  obtain ⟨before, first, after, rfl, hbefore, hfirst, he⟩ := compileAll_eq_error_iff.1 h
  refine compileAll_eq_error_iff.2 ⟨before, first, after ++ [clause], ?_, hbefore, hfirst, he⟩
  rw [List.append_assoc, List.cons_append]

/-- The clause that compares the key with a key literal. -/
def onKey (literal : KeyLiteral) : Clause := ⟨keyField, "=", .key literal, .and⟩

/-- A clause on the id is compiled to one on the key. -/
theorem compile_onIdentity {raw : String} {op : Operator} (hread : Operator.read raw = .ok op)
    (kind : String) (value : FilterValue) :
    compile kind ⟨identityField, raw, value, .and⟩ =
      .ok ⟨keyField, op.text, .key (value.toKeyLiteral kind), .and⟩ := by
  rw [compile, hread]
  rfl

theorem compile_identity (kind : String) (id : FilterValue) :
    compile kind ⟨identityField, "=", id, .and⟩ = .ok (onKey (id.toKeyLiteral kind)) :=
  compile_onIdentity (show Operator.read "=" = .ok .equal by decide) kind id

/-- A clause on any other field keeps field and value. -/
theorem compile_onProperty {field raw : String} {op : Operator} (hfield : field ≠ identityField)
    (hread : Operator.read raw = .ok op) (kind : String) (value : FilterValue) :
    compile kind ⟨field, raw, value, .and⟩ = .ok ⟨field, op.text, value, .and⟩ := by
  rw [compile, hread]
  simp only [hfield, if_false]

end Clause

namespace Query

/-- Without columns a query stays as it is. -/
theorem withColumns_nil (q : Query) : q.withColumns [] = q := by
  unfold withColumns
  split <;> rfl

/-- The query that looks an entity up. -/
def lookup (q : Query) (id : FilterValue) (columns : List String) : Query :=
  ((q.withIdentity id).limitTo 1).withColumns columns

theorem lookup_eq (q : Query) (id : FilterValue) (columns : List String) :
    q.lookup id columns =
      ⟨q.kind, q.ns, q.clauses ++ [⟨identityField, "=", id, .and⟩],
        (q.withColumns columns).projections, q.orders, some 1, q.offset, q.excluded,
        q.timeout⟩ := by
  unfold lookup withColumns
  by_cases h : q.selectsAll = true
  · rw [if_pos h, if_pos (show ((q.withIdentity id).limitTo 1).selectsAll = true from h)]
    rfl
  · rw [if_neg h, if_neg (show ¬ ((q.withIdentity id).limitTo 1).selectsAll = true from h)]
    rfl

/-- What the look-up of an id is compiled to: the condition on the key stands behind the clauses
of the query. -/
def compiledLookup (q : Query) (kind : String) (clauses : List Clause) (id : FilterValue)
    (columns : List String) : CompiledQuery :=
  ⟨⟨some kind, q.ns, clauses ++ [Clause.onKey (id.toKeyLiteral kind)],
    (q.withColumns columns).projections, q.orders, some 1, q.offset, q.excluded, q.timeout⟩, kind⟩

/-- A look-up compiles if the clauses of the query do. -/
theorem compile_lookup_iff {q : Query} {id : FilterValue} {columns : List String}
    {compiled : CompiledQuery} :
    (q.lookup id columns).compile = .ok compiled ↔
      ∃ kind clauses, q.kind = some kind ∧ Clause.compileAll kind q.clauses = .ok clauses ∧
        compiled = q.compiledLookup kind clauses id columns := by
  rw [lookup_eq, compile]
  cases q.kind with
  | none =>
    constructor
    · intro h
      cases h
    · rintro ⟨kind, clauses, h, -⟩
      cases h
  | some kind =>
    simp only
    cases hall : Clause.compileAll kind q.clauses with
    | error e =>
      rw [Clause.compileAll_concat_error hall]
      constructor
      · intro h
        cases h
      · rintro ⟨other, clauses, h, hok, -⟩
        cases h
        rw [hall] at hok
        cases hok
    | ok clauses =>
      rw [Clause.compileAll_concat hall (Clause.compile_identity kind id)]
      constructor
      · intro h
        cases h
        exact ⟨kind, clauses, rfl, hall, rfl⟩
      · rintro ⟨other, found, h, hok, rfl⟩
        cases h
        rw [hall] at hok
        cases hok
        rfl

/-- A look-up gives the first of the records of its query. -/
theorem find_fst_eq_ok_iff {q : Query} {id : FilterValue} {columns : List String}
    {s : Session MemoryStore} {answer : Option Record} :
    (q.find id columns s).1 = .ok answer ↔
      ∃ records, (((q.withIdentity id).limitTo 1).get columns s).1 = .ok records ∧
        answer = records.head? := by
  rw [find, first]
  split
  · next e s' h =>
    rw [h]
    constructor
    · intro heq
      cases heq
    · rintro ⟨records, heq, -⟩
      cases heq
  · next records s' h =>
    rw [h]
    constructor
    · intro heq
      cases heq
      exact ⟨records, rfl, rfl⟩
    · rintro ⟨records', heq, rfl⟩
      cases heq
      rfl

/-- The record that a look-up gives is that of the first entity that the statement returns. -/
theorem find_eq_ok_iff {q : Query} {id : FilterValue} {columns : List String}
    {s : Session MemoryStore} {answer : Option Record} :
    (q.find id columns s).1 = .ok answer ↔
      ∃ compiled, (q.lookup id columns).compile = .ok compiled ∧
        s.store.isUnavailable = false ∧ compiled.isReadable = true ∧
        answer = ((compiled.statement.run
          (s.store.shelf (compiled.query.ns, compiled.kind))).head?).map Record.ofEntity := by
  have hlookup : ((q.withIdentity id).limitTo 1).withColumns columns = q.lookup id columns := rfl
  rw [find_fst_eq_ok_iff, get, hlookup]
  cases hcompile : (q.lookup id columns).compile with
  | error e =>
    constructor
    · rintro ⟨records, heq, -⟩
      cases heq
    · rintro ⟨compiled, heq, -⟩
      cases heq
  | ok compiled =>
    have hiff := @CompiledQuery.executeAll_eq_ok_iff compiled
      (CompiledQuery.isWritten_of_compile hcompile) s
    simp only [hiff]
    constructor
    · rintro ⟨records, ⟨hup, hreadable, rfl⟩, rfl⟩
      exact ⟨compiled, rfl, hup, hreadable, List.head?_map⟩
    · rintro ⟨other, heq, hup, hreadable, rfl⟩
      cases heq
      exact ⟨_, ⟨hup, hreadable, rfl⟩, List.head?_map.symm⟩

end Query

end EntityQuery
