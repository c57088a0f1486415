import EntityQuery.Proofs.Session.CursorFailures
import EntityQuery.Proofs.Session.Lookup
import EntityQuery.Proofs.Session.Operations
import EntityQuery.Proofs.Session.Refusal

/-!
# Reading a cursor and collecting its records

A query is read through a cursor, or its records are collected, or the first of them is asked
for.  The three agree.

* Reading.  `Cursor.Reads` is to read a cursor for a while.  `Cursor.Reads.yielded_eq` says what
  the cursor counts meanwhile, and `Cursor.collect_eq_ok_iff` and `Cursor.collect_eq_error_iff`
  which items are consumed when its records are collected.
* Any store.  `Query.get_eq_collect` says that all records of a query are those collected of its
  cursor.
* The store in memory.  `Query.get_eq_ok_iff` says what all records are, and
  `Query.first_eq_ok_iff` that a limit of one leaves the first of them.
* The result.  `Query.operations_agree` puts `Query.AgreesWithCursor`, for any store, together with
  what the first record is.
-/

namespace EntityQuery

/-! ## Reading -/

namespace Cursor

/-- What reading a cursor for a while yields, and the cursor behind it. -/
inductive Reads : Cursor → List (Except QueryError Record) → Cursor → Prop
  | nil (cursor : Cursor) : Reads cursor [] cursor
  | cons {cursor rest stop : Cursor} {item : Except QueryError Record}
      {items : List (Except QueryError Record)} (h : cursor.next? = some (item, rest))
      (hrest : Reads rest items stop) : Reads cursor (item :: items) stop

variable {cursor rest stop : Cursor} {items : List (Except QueryError Record)}

/-- A record is counted, and a failure is not. -/
theorem yielded_of_next? {item : Except QueryError Record} (h : cursor.next? = some (item, rest)) :
    rest.yielded = cursor.yielded + [item].countP Except.isOk := by
  obtain ⟨_ | ⟨_ | _, _⟩, _⟩ := cursor
  · cases h
  · cases h
    rfl
  · cases h
    rfl

/-- A cursor counts the records that were read. -/
theorem Reads.yielded_eq (h : Reads cursor items stop) :
    stop.yielded = cursor.yielded + items.countP Except.isOk := by
  induction h with
  | nil cursor => rfl
  | @cons _ _ _ item items h _ ih =>
    rw [ih, yielded_of_next? h, Nat.add_assoc, ← List.countP_append]
    rfl

/-- To read to the end is to read until nothing is left. -/
theorem yields_iff_reads :
    cursor.Yields items ↔ ∃ stop, cursor.Reads items stop ∧ stop.next? = none := by
  constructor
  · intro h
    induction h with
    | done h => exact ⟨_, .nil _, h⟩
    | next h _ ih =>
      obtain ⟨stop, hreads, hend⟩ := ih
      exact ⟨stop, .cons h hreads, hend⟩
  · rintro ⟨stop, hreads, hend⟩
    induction hreads with
    | nil cursor => exact .done hend
    | cons h _ ih => exact .next h (ih hend)

/-! What collecting does with the next item. -/

theorem collect_of_end (h : cursor.next? = none) : cursor.collect = (.ok [], cursor) := by
  obtain ⟨_ | ⟨_ | _, _⟩, _⟩ := cursor
  · rfl
  · cases h
  · cases h

theorem collect_of_failure {e : QueryError} (h : cursor.next? = some (.error e, rest)) :
    cursor.collect = (.error e, rest) := by
  obtain ⟨_ | ⟨_ | _, _⟩, _⟩ := cursor
  · cases h
  · cases h
    rfl
  · cases h

theorem collect_of_record {record : Record} (h : cursor.next? = some (.ok record, rest)) :
    cursor.collect = (rest.collect.1.map (record :: ·), rest.collect.2) := by
  obtain ⟨_ | ⟨_ | _, stream⟩, yielded⟩ := cursor
  · cases h
  · cases h
  · cases h
    simp only [collect, collectStream]
    split
    · next hcollect =>
      rw [hcollect]
      rfl
    · next hcollect =>
      rw [hcollect]
      rfl

/-- Collecting reads records up to the end, or up to a failure and no further. -/
theorem reads_collect (cursor : Cursor) :
    (∃ records : List Record, cursor.collect.1 = .ok records ∧
        cursor.Reads (records.map .ok) cursor.collect.2 ∧ cursor.collect.2.next? = none) ∨
      ∃ (e : QueryError) (records : List Record), cursor.collect.1 = .error e ∧
        cursor.Reads (records.map .ok ++ [.error e]) cursor.collect.2 := by
  obtain ⟨stream, yielded⟩ := cursor
  induction stream generalizing yielded with
  | nil => exact .inl ⟨[], rfl, .nil _, rfl⟩
  | cons element stream ih =>
    cases element with
    | error source =>
      exact .inr ⟨.storeQuery source, [], rfl, .cons rfl (.nil _)⟩
    | ok entity =>
      have hcollect : collect ⟨.ok entity :: stream, yielded⟩ =
          ((collect ⟨stream, yielded + 1⟩).1.map (.ofEntity entity :: ·),
            (collect ⟨stream, yielded + 1⟩).2) := collect_of_record rfl
      rw [hcollect]
      rcases ih (yielded + 1) with ⟨records, hrecords, hreads, hend⟩ | ⟨e, records, he, hreads⟩
      · refine .inl ⟨.ofEntity entity :: records, ?_, .cons rfl hreads, hend⟩
        rw [hrecords]
        rfl
      · refine .inr ⟨e, .ofEntity entity :: records, ?_, .cons rfl hreads⟩
        rw [he]
        rfl

/-- Records are collected if reading to the end yields them and no failure. -/
theorem collect_eq_ok_iff {records : List Record} :
    cursor.collect = (.ok records, stop) ↔
      cursor.Reads (records.map .ok) stop ∧ stop.next? = none := by
  constructor
  · intro h
    rcases reads_collect cursor with ⟨own, hown, hreads, hend⟩ | ⟨e, own, he, -⟩
    · rw [h] at hown hreads hend
      cases hown
      exact ⟨hreads, hend⟩
    · rw [h] at he
      cases he
  · rintro ⟨hreads, hend⟩
    generalize hitems : records.map Except.ok = items at hreads
    induction hreads generalizing records with
    | nil cursor =>
      rw [List.map_eq_nil_iff.1 hitems]
      exact collect_of_end hend
    | cons h _ ih =>
      obtain ⟨record, others, rfl, rfl, hothers⟩ := List.map_eq_cons_iff.1 hitems
      rw [collect_of_record h, ih hend hothers]
      rfl

/-- Collecting fails with the first failure, and what lies behind it is not consumed. -/
theorem collect_eq_error_iff {e : QueryError} :
    cursor.collect = (.error e, stop) ↔
      ∃ records : List Record, cursor.Reads (records.map .ok ++ [.error e]) stop := by
  constructor
  · intro h
    rcases reads_collect cursor with ⟨own, hown, -⟩ | ⟨e', own, he, hreads⟩
    · rw [h] at hown
      cases hown
    · rw [h] at he hreads
      cases he
      exact ⟨own, hreads⟩
  · rintro ⟨records, hreads⟩
    induction records generalizing cursor with
    | nil =>
      obtain _ | ⟨h, _ | _⟩ := hreads
      exact collect_of_failure h
    | cons record records ih =>
      obtain _ | ⟨h, hrest⟩ := hreads
      rw [collect_of_record h, ih hrest]
      rfl

end Cursor

/-! ## Any store -/

/-- All records of a query are those collected of the cursor that it gives, and either way the
store is asked the same. -/
theorem Query.get_eq_collect {σ : Type} [EntityStore σ] (q : Query) (columns : List String)
    (s : Session σ) :
    (q.get columns s).1 = ((q.cursor columns s).1.bind fun cursor => cursor.collect.1) ∧
      (q.get columns s).2.store = (q.cursor columns s).2.store := by
  rw [get, cursor]
  cases (q.withColumns columns).compile with
  | error e => exact ⟨rfl, rfl⟩
  | ok compiled =>
    cases hrun : EntityStore.runQuery compiled.prepare s.store with
    | mk answer store =>
      obtain ⟨journal, hall⟩ := CompiledQuery.executeAll_eq compiled hrun
      obtain ⟨journal', hcursor⟩ := CompiledQuery.execute_eq compiled hrun
      simp only
      rw [hall, hcursor]
      cases answer with
      | error e => exact ⟨rfl, rfl⟩
      | ok stream => exact ⟨rfl, rfl⟩

/-! ## The store in memory -/

namespace Query

/-- All records of a query are those of the entities that its statement returns. -/
theorem get_eq_ok_iff {q : Query} {columns : List String} {s : Session MemoryStore}
    {records : List Record} :
    (q.get columns s).1 = .ok records ↔
      ∃ compiled, (q.withColumns columns).compile = .ok compiled ∧
        s.store.isUnavailable = false ∧ compiled.isReadable = true ∧
        records = (compiled.statement.run
          (s.store.shelf (compiled.query.ns, compiled.kind))).map Record.ofEntity := by
  rw [get]
  cases hcompile : (q.withColumns columns).compile with
  | error e => simp
  | ok compiled =>
    have hwritten := CompiledQuery.isWritten_of_compile hcompile
    simp only [CompiledQuery.executeAll_eq_ok_iff hwritten, Except.ok.injEq, exists_eq_left']

theorem withColumns_limitTo (q : Query) (n : UInt64) (columns : List String) :
    (q.limitTo n).withColumns columns = (q.withColumns columns).limitTo n := by
  have hsame : (q.limitTo n).selectsAll = q.selectsAll := rfl
  rw [withColumns, withColumns, hsame]
  by_cases hall : q.selectsAll = true
  · rw [if_pos hall, if_pos hall]
    rfl
  · rw [if_neg hall, if_neg hall]

theorem limit_withColumns (q : Query) (columns : List String) :
    (q.withColumns columns).limit = q.limit := by
  rw [withColumns]
  by_cases hall : q.selectsAll = true
  · rw [if_pos hall]
    rfl
  · rw [if_neg hall]

theorem compile_limitTo (q : Query) (n : UInt64) :
    (q.limitTo n).compile =
      q.compile.map fun compiled => ⟨compiled.query.limitTo n, compiled.kind⟩ := by
  have hkind : (q.limitTo n).kind = q.kind := rfl
  have hclauses : (q.limitTo n).clauses = q.clauses := rfl
  rw [compile, compile, hkind, hclauses]
  cases q.kind with
  | none => rfl
  | some kind =>
    simp only
    cases Clause.compileAll kind q.clauses with
    | error e => rfl
    | ok clauses => rfl

/-- The limit of a query, if it has one, is at least one and a signed integer of 64 bits. -/
def HasLimitInRange (q : Query) : Prop :=
  ∀ n ∈ q.limit, 1 ≤ n.toNat ∧ n.toNat ≤ 9223372036854775807

/-- With a limit of one in place of another the text of a query is read as before. -/
theorem isReadable_limitTo_one {compiled : CompiledQuery}
    (hlimit : compiled.query.HasLimitInRange) :
    CompiledQuery.isReadable ⟨compiled.query.limitTo 1, compiled.kind⟩ = compiled.isReadable := by
  have hread : CompiledQuery.countIsReadable compiled.query.limit = true := by
    rw [← Bool.not_eq_false, CompiledQuery.countIsReadable_eq_false_iff]
    rintro ⟨n, hn, hlarge⟩
    have := (hlimit n hn).2
    omega
  have hone : CompiledQuery.countIsReadable (compiled.query.limitTo 1).limit = true := rfl
  rw [CompiledQuery.isReadable, CompiledQuery.isReadable, hread, hone]
  rfl

/-- With a limit of one in place of another the first of the entities is the same. -/
theorem head?_run_limitTo_one {compiled : CompiledQuery}
    (hlimit : compiled.query.HasLimitInRange) (entities : List Entity) :
    ((CompiledQuery.statement ⟨compiled.query.limitTo 1, compiled.kind⟩).run entities).head? =
      (compiled.statement.run entities).head? := by
  have hpos : 0 < (compiled.statement.limit.map UInt64.toNat).getD Statement.defaultLimit := by
    show 0 < (compiled.query.limit.map UInt64.toNat).getD Statement.defaultLimit
    cases hown : compiled.query.limit with
    | none => decide
    | some n => exact (hlimit n hown).1
  rw [Statement.head?_run_of_pos hpos, Statement.head?_run rfl]
  rfl

/-- The first record of a query is the first of all, and there is an answer to the one request
if there is an answer to the other. -/
theorem first_eq_ok_iff {q : Query} (hlimit : q.HasLimitInRange) {columns : List String}
    {s : Session MemoryStore} {record : Option Record} :
    (q.first columns s).1 = .ok record ↔
      ∃ records, (q.get columns s).1 = .ok records ∧ record = records.head? := by
  have hfirst : (q.first columns s).1 = .ok record ↔
      ∃ records, ((q.limitTo 1).get columns s).1 = .ok records ∧ record = records.head? := by
    rw [first]
    cases (q.limitTo 1).get columns s with
    | mk answer _ => cases answer <;> simp [eq_comm]
  rw [hfirst]
  simp only [get_eq_ok_iff, withColumns_limitTo, compile_limitTo]
  cases hcompile : (q.withColumns columns).compile with
  | error e => simp [Except.map]
  | ok compiled =>
    have hrange : compiled.query.HasLimitInRange := by
      rw [HasLimitInRange, (compile_parts hcompile).1, limit_withColumns]
      exact hlimit
    have hhead (entities : List Entity) :
        (((CompiledQuery.statement ⟨compiled.query.limitTo 1, compiled.kind⟩).run entities).map
            Record.ofEntity).head? =
          ((compiled.statement.run entities).map Record.ofEntity).head? := by
      rw [List.head?_map, List.head?_map, head?_run_limitTo_one hrange]
    simp only [Except.map, Except.ok.injEq, exists_eq_left', isReadable_limitTo_one hrange]
    constructor
    · rintro ⟨_, ⟨hup, hread, rfl⟩, rfl⟩
      exact ⟨_, ⟨hup, hread, rfl⟩, hhead _⟩
    · rintro ⟨_, ⟨hup, hread, rfl⟩, rfl⟩
      exact ⟨_, ⟨hup, hread, rfl⟩, (hhead _).symm⟩

/-! ## The result -/

/-- How the cursor on a query and all of its records agree on a store. -/
structure AgreesWithCursor {σ : Type} [EntityStore σ] (q : Query) (columns : List String)
    (s : Session σ) : Prop where
  /-- There are records if the cursor yields them and no failure. -/
  ok_iff : ∀ records : List Record, (q.get columns s).1 = .ok records ↔
    ∃ cursor, (q.cursor columns s).1 = .ok cursor ∧ cursor.Yields (records.map .ok)
  /-- There is a failure if it is that of the submission or the first of the stream.  What is
  read then is what lies before it. -/
  error_iff : ∀ e, (q.get columns s).1 = .error e ↔
    (q.cursor columns s).1 = .error e ∨
      ∃ cursor records stop, (q.cursor columns s).1 = .ok cursor ∧
        cursor.Reads (List.map .ok records ++ [.error e]) stop ∧
        cursor.collect = ((q.get columns s).1, stop)
  /-- Wherever reading stands, the records that were read are counted. -/
  yielded_eq : ∀ cursor items stop, (q.cursor columns s).1 = .ok cursor →
    cursor.Reads items stop → stop.yielded = items.countP Except.isOk
  /-- The store is left the same. -/
  store_eq : (q.get columns s).2.store = (q.cursor columns s).2.store

/-- A cursor is opened at the begin of a stream. -/
theorem yielded_of_cursor {σ : Type} [EntityStore σ] {q : Query} {columns : List String}
    {s : Session σ} {cursor : Cursor} (h : (q.cursor columns s).1 = .ok cursor) :
    cursor.yielded = 0 := by
  rw [Query.cursor] at h
  cases hcompile : (q.withColumns columns).compile with
  | error e =>
    rw [hcompile] at h
    cases h
  | ok compiled =>
    rw [hcompile] at h
    cases hrun : EntityStore.runQuery compiled.prepare s.store with
    | mk answer store =>
      obtain ⟨journal, hcursor⟩ := CompiledQuery.execute_eq compiled hrun
      simp only [hcursor] at h
      cases answer <;> cases h
      rfl

theorem agreesWithCursor {σ : Type} [EntityStore σ] (q : Query) (columns : List String)
    (s : Session σ) : q.AgreesWithCursor columns s := by
  obtain ⟨hget, hstore⟩ := get_eq_collect q columns s
  refine ⟨fun records => ?_, fun e => ?_, fun cursor items stop hcursor hreads => ?_, hstore⟩
  · cases hcursor : (q.cursor columns s).1 with
    | error e =>
      rw [hget, hcursor]
      exact ⟨nofun, nofun⟩
    | ok cursor =>
      rw [hget, hcursor]
      simp only [Except.ok.injEq, exists_eq_left', Cursor.yields_iff_reads,
        ← Cursor.collect_eq_ok_iff]
      exact ⟨fun h => ⟨cursor.collect.2, Prod.ext h rfl⟩, fun ⟨_, h⟩ => congrArg Prod.fst h⟩
  · cases hcursor : (q.cursor columns s).1 with
    | error e' =>
      have hfailed : (q.get columns s).1 = .error e' := by
        rw [hget, hcursor]
        rfl
      rw [hfailed]
      constructor
      · intro h
        cases h
        exact .inl rfl
      · rintro (h | ⟨_, _, _, h, -⟩)
        · cases h
          rfl
        · cases h
    | ok cursor =>
      have hcollect : (q.get columns s).1 = cursor.collect.1 := by
        rw [hget, hcursor]
        rfl
      constructor
      · intro h
        have hall : cursor.collect = (.error e, cursor.collect.2) := Prod.ext (hcollect ▸ h) rfl
        obtain ⟨records, hreads⟩ := Cursor.collect_eq_error_iff.1 hall
        exact .inr ⟨cursor, records, _, rfl, hreads, Prod.ext hcollect.symm rfl⟩
      · rintro (h | ⟨_, records, stop, h, hreads, -⟩)
        · cases h
        · cases h
          rw [hcollect, Cursor.collect_eq_error_iff.2 ⟨records, hreads⟩]
  · rw [hreads.yielded_eq, yielded_of_cursor hcursor, Nat.zero_add]

/-- All records of a query are those that the cursor on it yields up to its end, or there is the
failure of the submission or the first of the stream, behind which nothing is read.  A cursor
counts the records that it yields.  On a store in memory the first record of a query is the first
of all, and there is none if there are none. -/
theorem operations_agree (q : Query) (columns : List String) :
    (∀ (σ : Type) [EntityStore σ] (s : Session σ), q.AgreesWithCursor columns s) ∧
      (q.HasLimitInRange → ∀ s : Session MemoryStore,
        ((∃ e, (q.first columns s).1 = .error e) ↔ ∃ e, (q.get columns s).1 = .error e) ∧
        ∀ records, (q.get columns s).1 = .ok records →
          (q.first columns s).1 = .ok records.head?) := by
  refine ⟨fun _ _ => agreesWithCursor q columns, fun hlimit s => ⟨?_, ?_⟩⟩
  · cases hfirst : (q.first columns s).1 with
    | ok record =>
      obtain ⟨records, hget, -⟩ := (first_eq_ok_iff hlimit).1 hfirst
      rw [hget]
      exact ⟨nofun, nofun⟩
    | error e =>
      cases hget : (q.get columns s).1 with
      | ok records =>
        have hok := (first_eq_ok_iff hlimit).2 ⟨records, hget, rfl⟩
        rw [hfirst] at hok
        cases hok
      | error e' => exact ⟨fun _ => ⟨e', rfl⟩, fun _ => ⟨e, rfl⟩⟩
  · intro records hget
    exact (first_eq_ok_iff hlimit).2 ⟨records, hget, rfl⟩

/-- The query for two widgets. -/
def twoOfKind : Query := (empty.ofKind "Widget").limitTo 2

/-- Of a broken stream there is the failure, although records stand before it and behind it, and of
a store of two widgets the first is the first of both. -/
theorem operations_agree_widgets :
    (twoOfKind.get [] (σ := ScriptedStore) ⟨CompiledQuery.brokenStream, .empty .info⟩).1 =
        .error (.storeQuery (.backend "stream reset")) ∧
      twoOfKind.HasLimitInRange ∧
      (twoOfKind.first [] ⟨MemoryStore.twoWidgets, .empty .info⟩).1 =
        .ok (some ⟨[("a", .ofInt64 1)]⟩) := by
  have hlimit : twoOfKind.HasLimitInRange := by
    intro n hn
    cases hn
    exact ⟨by decide, by decide⟩
  have hget : (twoOfKind.get [] ⟨MemoryStore.twoWidgets, .empty .info⟩).1 =
      .ok [⟨[("a", .ofInt64 1)]⟩, ⟨[("b", .ofInt64 2)]⟩] := by
    refine get_eq_ok_iff.2 ⟨⟨twoOfKind, "Widget"⟩, rfl, rfl, rfl, ?_⟩
    rw [Statement.run_plain rfl rfl rfl rfl]
    rfl
  obtain ⟨hany, hmemory⟩ := operations_agree twoOfKind []
  refine ⟨?_, hlimit, (hmemory hlimit _).2 _ hget⟩
  exact ((hany ScriptedStore _).error_iff _).2
    (.inr ⟨.ofStream CompiledQuery.brokenStream.script.results, [⟨[]⟩], _, rfl,
      .cons rfl (.cons rfl (.nil _)), rfl⟩)

end Query

end EntityQuery
