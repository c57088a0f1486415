import EntityQuery.CommandLine.Fixtures
import EntityQuery.Proofs.Json.Size
import EntityQuery.Proofs.Session.Draining
import EntityQuery.Proofs.Session.NumberedShelves

/-!
# Fixtures in a new store

The fixtures of a file are inserted into a store that holds nothing yet.

* Files.  `Fixtures.member` is a kind with its rows as a file has them, and
  `Fixtures.rows_or_first_refused` that the first kind that is none of these can be found.
* Kinds.  `Connection.exists_seedKind` inserts the rows of one kind, and
  `Connection.exists_seedKinds` is the induction over the kinds.  `Connection.exists_seed` starts
  it from the text of a file.
* Reading.  `MemoryStore.HoldsRows.get_table`: a query reads the rows of a kind back.
* The result.  `Connection.seed_exact`.
-/

namespace EntityQuery

/-! ## Files -/

namespace Fixtures

/-- The member of a file with the rows of a kind. -/
def member (entry : String × List Properties) : String × Json :=
  (entry.1, .array (entry.2.map .object))

/-- The number of all rows. -/
def total (kinds : List (String × List Properties)) : Nat :=
  (kinds.flatMap Prod.snd).length

theorem mapM_object?_eq_some_iff {items : List Json} {rows : List Properties} :
    items.mapM Json.object? = some rows ↔ items = rows.map .object := by
  induction items generalizing rows with
  | nil => cases rows <;> simp
  | cons item items ih =>
    cases rows with
    | nil => simp [List.mapM_cons, Option.bind_eq_some_iff]
    | cons row rows =>
      cases item <;> simp [Json.object?, List.mapM_cons, ih, Option.bind_eq_some_iff, and_comm]

/-- No two kinds of a file have one name. -/
theorem nodup_of_ascending {kinds : List (String × List Properties)} {rest : Properties}
    (h : Ascending (kinds.map member ++ rest)) : (kinds.map Prod.fst).Nodup := by
  have hkinds := (List.pairwise_append.1 h).1
  rw [List.pairwise_map] at hkinds
  refine List.pairwise_map.2 (hkinds.imp ?_)
  intro first second hlt heq
  have hself : TotalOrder.order first.1 second.1 = .lt := hlt
  rw [heq, TotalOrder.order_self] at hself
  cases hself

/-- What keeps the value of a kind from being rows. -/
inductive Refuses (kind : String) : Json → CommandError → Prop
  | notArray {v : Json} (h : ∀ items, v ≠ .array items) : Refuses kind v (.fixturesNotArray kind)
  | notObjects {items : List Json} (h : ∀ rows : List Properties, items ≠ rows.map .object) :
      Refuses kind (.array items) (.fixturesNotObjects kind)

/-- The rows of a kind are an array of objects, and anything else is refused. -/
theorem rows_array (kind : String) (rows : List Properties) :
    Fixtures.rows kind (.array (rows.map .object)) = .ok rows := by
  rw [Fixtures.rows]
  simp only [Json.array?, mapM_object?_eq_some_iff.2 rfl]

theorem exists_refuses (kind : String) {v : Json}
    (h : ∀ rows : List Properties, v ≠ .array (rows.map .object)) :
    ∃ e, Fixtures.rows kind v = .error e ∧ Refuses kind v e := by
  cases v with
  | array items =>
    have hitems : ∀ rows : List Properties, items ≠ rows.map .object :=
      fun rows heq => h rows (congrArg Json.array heq)
    have hnone : items.mapM Json.object? = none := by
      rw [Option.eq_none_iff_forall_ne_some]
      exact fun rows hrows => hitems rows (mapM_object?_eq_some_iff.1 hrows)
    refine ⟨_, ?_, .notObjects hitems⟩
    rw [Fixtures.rows]
    simp only [Json.array?, hnone]
  | null | bool | number | string | object => exact ⟨_, rfl, .notArray nofun⟩

/-- Members are rows of kinds, or one of them is the first that is not. -/
theorem rows_or_first_refused (members : Properties) :
    (∃ kinds : List (String × List Properties), members = kinds.map member) ∨
      ∃ (before : List (String × List Properties)) (kind : String) (v : Json) (after : Properties),
        members = before.map member ++ (kind, v) :: after ∧
        ∀ rows : List Properties, v ≠ .array (rows.map .object) := by
  induction members with
  | nil => exact .inl ⟨[], rfl⟩
  | cons first members ih =>
    obtain ⟨kind, v⟩ := first
    by_cases hrows : ∃ rows : List Properties, v = .array (rows.map .object)
    · obtain ⟨rows, rfl⟩ := hrows
      rcases ih with ⟨kinds, rfl⟩ | ⟨before, bad, other, after, rfl, hbad⟩
      · exact .inl ⟨(kind, rows) :: kinds, rfl⟩
      · exact .inr ⟨(kind, rows) :: before, bad, other, after, rfl, hbad⟩
    · exact .inr ⟨[], kind, v, members, rfl, fun rows heq => hrows ⟨rows, heq⟩⟩

end Fixtures

/-! ## Kinds -/

namespace Connection

variable (connection : Connection) {kinds : List (String × List Properties)}
  {s : Session MemoryStore}

/-- The query for a kind asks for all of its entities. -/
theorem table_eq (kind : String) :
    connection.table kind =
      ⟨some kind, connection.config.ns, [], [], [], none, none, [], connection.config.timeout⟩ := by
  rw [table, query_eq]
  rfl

theorem exists_seedKind (h : s.store.HoldsRows connection.config.ns kinds) {kind : String}
    (hnew : kind ∉ kinds.map Prod.fst) {rows : List Properties}
    (hsmall : rows.length ≤ 9223372036854775807) :
    ∃ s', connection.seedKind kind (.array (rows.map .object)) s = (.ok rows.length, s') ∧
      s'.store.HoldsRows connection.config.ns (kinds ++ [(kind, rows)]) := by
  have htable := connection.table_eq kind
  have hkind : (connection.table kind).kind = some kind := by rw [htable]
  have hns : (connection.table kind).ns = connection.config.ns := by rw [htable]
  obtain ⟨⟨journal, hinsert⟩, -⟩ := Query.insert_eq_insertRows hkind rows h.isFiled
    (hns ▸ h.isAhead hnew) h.isUnavailable
    (by rw [hns, h.sequence_eq_zero hnew, Int64.toInt_zero]; omega)
  refine ⟨⟨s.store.insertRows connection.config.ns kind rows [], journal⟩, ?_,
    h.insertRows hnew hsmall⟩
  rw [seedKind, Fixtures.rows_array]
  simp only [hinsert, KeyId.following, List.length_map, List.length_range]
  rw [htable]

/-- Kinds that are arrays of objects are inserted whole, whatever comes after them. -/
theorem exists_seedKinds {more : List (String × List Properties)}
    (h : s.store.HoldsRows connection.config.ns kinds)
    (hnodup : ((kinds ++ more).map Prod.fst).Nodup)
    (hsmall : ∀ entry ∈ more, entry.2.length ≤ 9223372036854775807) :
    ∃ s', s'.store.HoldsRows connection.config.ns (kinds ++ more) ∧
      ∀ rest, connection.seedKinds (more.map Fixtures.member ++ rest) s =
        ((connection.seedKinds rest s').1.map (Fixtures.total more + ·),
          (connection.seedKinds rest s').2) := by
  induction more generalizing kinds s with
  | nil =>
    refine ⟨s, by rwa [List.append_nil], fun rest => ?_⟩
    simp only [List.map_nil, List.nil_append]
    cases (connection.seedKinds rest s) with
    | mk answer s => cases answer <;> simp [Except.map, Fixtures.total]
  | cons entry more ih =>
    obtain ⟨kind, rows⟩ := entry
    have hnew : kind ∉ kinds.map Prod.fst := by
      rw [List.map_append, List.nodup_append] at hnodup
      intro hmem
      exact hnodup.2.2 kind hmem kind List.mem_cons_self rfl
    obtain ⟨s₁, hfirst, hholds⟩ := connection.exists_seedKind h hnew (hsmall _ List.mem_cons_self)
    obtain ⟨s', hholds', hrest⟩ := ih hholds (by simpa using hnodup)
      fun entry hmem => hsmall entry (List.mem_cons_of_mem _ hmem)
    refine ⟨s', by simpa using hholds', fun rest => ?_⟩
    rw [List.map_cons, List.cons_append, Fixtures.member, seedKinds, hfirst]
    simp only [hrest]
    cases (connection.seedKinds rest s') with
    | mk answer s => cases answer <;> simp [Except.map, Fixtures.total, Nat.add_assoc]

/-- Kinds at the front of a file that are arrays of objects are inserted whole into a new
store. -/
theorem exists_seed (journal : Journal) {text : String} {members rest : Properties}
    (hread : Json.read? text = some (.object members))
    (hlength : text.length ≤ 9223372036854775807)
    (hmembers : members = kinds.map Fixtures.member ++ rest) :
    ∃ s' : Session MemoryStore, s'.store.HoldsRows connection.config.ns kinds ∧
      connection.seed (.ok text) ⟨.empty, journal⟩ =
        ((connection.seedKinds rest s').1.map (Fixtures.total kinds + ·),
          (connection.seedKinds rest s').2) := by
  have hnodup := Fixtures.nodup_of_ascending (hmembers ▸ Json.ascending_of_read? hread)
  have hsmall : ∀ entry ∈ kinds, entry.2.length ≤ 9223372036854775807 := by
    intro entry hentry
    have hmem : (entry.1, Json.array (entry.2.map .object)) ∈ members := by
      rw [hmembers]
      exact List.mem_append_left _ (List.mem_map.2 ⟨entry, hentry, rfl⟩)
    have hlt := Json.length_le_of_read? hread hmem
    rw [List.length_map] at hlt
    omega
  have hseed : connection.seed (.ok text) ⟨MemoryStore.empty, journal⟩ =
      connection.seedKinds members ⟨.empty, journal⟩ := by
    rw [seed, Fixtures.ofContent]
    simp only [hread]
  obtain ⟨s', hholds, hrest⟩ := connection.exists_seedKinds
    (s := ⟨.empty, journal⟩) (MemoryStore.holdsRows_empty _) hnodup hsmall
  exact ⟨s', hholds, by rw [hseed, hmembers, hrest rest]⟩

end Connection

/-! ## Reading -/

/-- A statement without any part but its kind returns all entities, if they are no more than a
query without a limit returns. -/
theorem Statement.run_whole {s : Statement} (hprojection : s.projection = [])
    (hgroups : s.groups = []) (horders : s.orders = []) (hlimit : s.limit = none)
    (hoffset : s.offset = none) {entities : List Entity}
    (hlength : entities.length ≤ defaultLimit) : s.run entities = entities := by
  have hall : ∀ e ∈ entities, s.isMetBy e = true := by
    intro e _
    rw [isMetBy, hgroups]
    rfl
  rw [run_unsorted hprojection horders hoffset, List.filter_eq_self.2 hall, hlimit]
  exact List.take_of_length_le hlength

/-- The rows of a kind are read back in order. -/
theorem MemoryStore.HoldsRows.get_table {connection : Connection}
    {kinds : List (String × List Properties)} {store : MemoryStore}
    (h : store.HoldsRows connection.config.ns kinds) {kind : String} {rows : List Properties}
    (hmem : (kind, rows) ∈ kinds) (hlength : rows.length ≤ Statement.defaultLimit)
    (journal : Journal) :
    ((connection.table kind).get [] ⟨store, journal⟩).1 = .ok (rows.map Record.mk) := by
  have htable := connection.table_eq kind
  have hcompile : ((connection.table kind).withColumns []).compile =
      .ok ⟨connection.table kind, kind⟩ := by
    rw [Query.withColumns_nil, Query.compile_eq_ok_iff, htable]
    exact ⟨rfl, [], rfl, .nil⟩
  have hstatement : CompiledQuery.statement ⟨connection.table kind, kind⟩ =
      ⟨[], kind, [], [], none, none⟩ := by
    rw [CompiledQuery.statement, htable]
    rfl
  have hshelf := h.shelf_eq hmem
  refine Query.get_eq_ok_iff.2 ⟨_, hcompile, h.isUnavailable, ?_, ?_⟩
  · rw [CompiledQuery.isReadable, htable]
    rfl
  · have hns : (connection.table kind).ns = connection.config.ns := by rw [htable]
    rw [hns, hstatement, Statement.run_whole rfl rfl rfl rfl rfl, hshelf]
    · exact List.ext_getElem (by simp) fun i _ _ => by simp [Record.ofEntity]
    · rw [hshelf, List.length_mapIdx]
      exact hlength

/-! ## The result -/

namespace Connection

/-- A store has the rows of some kinds in the namespace of a connection and nothing else, and
they are read back in order. -/
structure Keeps (connection : Connection) (kinds : List (String × List Properties))
    (store : MemoryStore) : Prop where
  holdsRows : store.HoldsRows connection.config.ns kinds
  get_table : ∀ kind rows journal, (kind, rows) ∈ kinds → rows.length ≤ 1000 →
    ((connection.table kind).get [] ⟨store, journal⟩).1 = .ok (rows.map Record.mk)

theorem keeps_of_holdsRows {connection : Connection} {kinds : List (String × List Properties)}
    {store : MemoryStore} (h : store.HoldsRows connection.config.ns kinds) :
    connection.Keeps kinds store :=
  ⟨h, fun _ _ journal hmem hlength => h.get_table hmem hlength journal⟩

/-- What the insertion of the fixtures of a file leads to in a new store. -/
structure SeedsExactly (connection : Connection) (members : Properties)
    (seeded : Except CommandError Nat × Session MemoryStore) : Prop where
  ascending : Ascending members
  /-- Every member is the rows of a kind, or there is a first that is not. -/
  rows_or_refused :
    (∃ kinds : List (String × List Properties), members = kinds.map Fixtures.member) ∨
    ∃ (before : List (String × List Properties)) (kind : String) (v : Json) (after : Properties),
      members = before.map Fixtures.member ++ (kind, v) :: after ∧
        ∀ rows : List Properties, v ≠ .array (rows.map .object)
  /-- If every member is the rows of a kind, all of them are inserted. -/
  of_rows : ∀ kinds : List (String × List Properties), members = kinds.map Fixtures.member →
    seeded.1 = .ok (Fixtures.total kinds) ∧ connection.Keeps kinds seeded.2.store
  /-- The first that is not is refused, and the kinds before it are all that is inserted. -/
  of_refused : ∀ (before : List (String × List Properties)) (kind : String) (v : Json)
    (after : Properties), members = before.map Fixtures.member ++ (kind, v) :: after →
      (∀ rows : List Properties, v ≠ .array (rows.map .object)) →
        ∃ e, seeded.1 = .error e ∧ Fixtures.Refuses kind v e ∧
          e.code = "KINDQL_CLI_INVALID_REQUEST" ∧ connection.Keeps before seeded.2.store

/-- The fixtures of a file are inserted into a new store kind by kind, up to the first that is
refused.  A text of the given length has no more rows than there are numbers to give out. -/
theorem seed_exact (connection : Connection) (journal : Journal) {text : String}
    {members : Properties} (hread : Json.read? text = some (.object members))
    (hlength : text.length ≤ 9223372036854775807) :
    connection.SeedsExactly members (connection.seed (.ok text) ⟨.empty, journal⟩) := by
  refine ⟨Json.ascending_of_read? hread, Fixtures.rows_or_first_refused members, ?_, ?_⟩
  · intro kinds hmembers
    rw [← List.append_nil (kinds.map Fixtures.member)] at hmembers
    obtain ⟨s', hholds, hrun⟩ := connection.exists_seed journal hread hlength hmembers
    rw [hrun]
    exact ⟨rfl, keeps_of_holdsRows hholds⟩
  · intro before kind v after hmembers hbad
    obtain ⟨s', hholds, hrun⟩ := connection.exists_seed journal hread hlength hmembers
    obtain ⟨e, hrows, hrefuses⟩ := Fixtures.exists_refuses kind hbad
    have hstops : connection.seedKinds ((kind, v) :: after) s' = (.error e, s') := by
      rw [seedKinds, seedKind, hrows]
    rw [hrun, hstops]
    refine ⟨e, rfl, hrefuses, ?_, keeps_of_holdsRows hholds⟩
    cases hrefuses <;> rfl

/-- Fixtures of two kinds, the second of which has a number for a row. -/
def oneRefused : String := "\x7b\"A\":[\x7b\x7d],\"B\":[7]\x7d"

theorem read?_oneRefused : Json.read? oneRefused =
    some (.object [("A", .array [.object []]), ("B", .array [.ofInt64 7])]) := by
  have hlexemes : Json.lexemes? oneRefused.toList =
      some [.openObject, .string (some "A"), .colon, .openArray, .openObject, .closeObject,
        .closeArray, .comma, .string (some "B"), .colon, .openArray,
        .number (some (.ofInt64 7)), .closeArray, .closeObject] := by
    show Json.lexemes? ['\x7b', '"', 'A', '"', ':', '[', '\x7b', '\x7d', ']', ',', '"', 'B', '"',
      ':', '[', '7', ']', '\x7d'] = _
    repeat rw [Json.lexemes?_cons (by decide) rfl]
    rw [Json.lexemes?_nil]
    rfl
  rw [Json.read?, Json.Source.read?, hlexemes]
  rfl

/-- The row of the first kind is inserted, and the second kind is refused. -/
theorem seed_exact_oneRefused :
    Json.read? oneRefused =
        some (.object [("A", .array [.object []]), ("B", .array [.ofInt64 7])]) ∧
      oneRefused.length ≤ 9223372036854775807 ∧
      ∃ s', (Connection.mk ⟨"p", some "n", none, "info"⟩).seed (.ok oneRefused)
            ⟨MemoryStore.empty, .empty .info⟩ = (.error (.fixturesNotObjects "B"), s') ∧
        s'.store.shelf (some "n", "A") = [⟨.numbered (some "n") "A" 1, [], []⟩] ∧
        s'.store.shelf (some "n", "B") = [] := by
  have hlength : oneRefused.length ≤ 9223372036854775807 := by decide
  have hseeds := seed_exact ⟨⟨"p", some "n", none, "info"⟩⟩ (.empty .info) read?_oneRefused hlength
  have hbad : ∀ rows : List Properties, Json.array [.ofInt64 7] ≠ .array (rows.map .object) := by
    rintro (_ | ⟨row, rows⟩) heq <;> cases heq
  obtain ⟨e, herror, hrefuses, -, hkeeps⟩ :=
    hseeds.of_refused [("A", [[]])] "B" (.array [.ofInt64 7]) [] rfl hbad
  have hkind : e = .fixturesNotObjects "B" := by
    cases hrefuses with
    | notArray h => exact absurd rfl (h _)
    | notObjects => rfl
  rw [hkind] at herror
  refine ⟨read?_oneRefused, hlength, _, Prod.ext herror rfl, ?_, ?_⟩
  · exact hkeeps.holdsRows.shelf_eq List.mem_cons_self
  · exact hkeeps.holdsRows.shelf_eq_nil (by decide)

end Connection

end EntityQuery
