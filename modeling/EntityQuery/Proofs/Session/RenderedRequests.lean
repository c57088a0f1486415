import EntityQuery.CommandLine.Run
import EntityQuery.Proofs.Session.Operations

/-!
# What a request shows and what it runs

The text that a request is shown as is the text that is submitted when it is run.  The two are
made in different ways: the text is that of a query which begins with nothing, and what is run
begins with the settings of a connection and ends in an operation that may limit it again.

* Texts.  Queries with `Query.SameText` have the same text, or fail to compile in the same way.
* Settings.  `Request.addSettings_eq` says what a request adds to a query, and
  `Request.Carries` that a query was given nothing else.
* Running.  `Request.execute_of_render` and `Request.Carries.find_of_render` are about any store.
* The result.  `Request.runs_what_it_shows` is about requests on a store in memory, and about
  the inputs of the commands.
-/

namespace EntityQuery

/-! ## Texts -/

namespace Query

/-- The queries agree in all that their text shows. -/
structure SameText (p q : Query) : Prop where
  kind : p.kind = q.kind
  clauses : p.clauses = q.clauses
  projections : p.projections = q.projections
  orders : p.orders = q.orders
  limit : p.limit = q.limit
  offset : p.offset = q.offset

namespace SameText

variable {p q : Query}

/-- Such queries compile alike. -/
theorem compile_eq (h : p.SameText q) :
    q.compile = p.compile.map fun compiled =>
      ⟨{ compiled.query with ns := q.ns, excluded := q.excluded, timeout := q.timeout },
        compiled.kind⟩ := by
  obtain hkind | ⟨kind, hkind⟩ := Option.eq_none_or_eq_some q.kind
  · rw [compile_of_none hkind, compile_of_none (h.kind.trans hkind)]
    rfl
  · rw [compile_of_some hkind, compile_of_some (h.kind.trans hkind), h.clauses]
    cases Clause.compileAll kind q.clauses with
    | error e => rfl
    | ok clauses =>
      simp only [Except.map, h.kind, h.projections, h.orders, h.limit, h.offset]

/-- The text of one query is what is submitted of the other. -/
theorem compile_of_toGql {gql : String} (h : p.SameText q) (htext : p.toGql = .ok gql) :
    ∃ compiled, q.compile = .ok compiled ∧ compiled.prepare = ⟨gql, true, q.ns, q.timeout⟩ := by
  rw [toGql] at htext
  rw [h.compile_eq]
  cases hcompile : p.compile with
  | error e =>
    rw [hcompile] at htext
    cases htext
  | ok compiled =>
    rw [hcompile] at htext
    cases htext
    exact ⟨_, rfl, rfl⟩

/-- If one query has no text the other does not compile. -/
theorem compile_eq_error {e : QueryError} (h : p.SameText q) (htext : p.toGql = .error e) :
    q.compile = .error e := by
  rw [toGql] at htext
  rw [h.compile_eq]
  cases hcompile : p.compile with
  | error e =>
    rw [hcompile] at htext
    cases htext
    rfl
  | ok compiled =>
    rw [hcompile] at htext
    cases htext

end SameText

/-! ## Settings -/

theorem foldl_filterBy (clauses : List Clause) (q : Query) :
    clauses.foldl filterBy q = { q with clauses := q.clauses ++ clauses } := by
  induction clauses generalizing q with
  | nil => rw [List.foldl_nil, List.append_nil]
  | cons clause clauses ih =>
    rw [List.foldl_cons, ih, filterBy, List.append_assoc]
    rfl

theorem foldl_orderBy (specs : List SortSpec) (q : Query) :
    specs.foldl (fun q spec => q.orderBy spec.field spec.direction) q =
      { q with orders := q.orders ++ specs } := by
  induction specs generalizing q with
  | nil => rw [List.foldl_nil, List.append_nil]
  | cons spec specs ih =>
    rw [List.foldl_cons, ih, orderBy, List.append_assoc]
    rfl

end Query

namespace Request

/-- What a request adds to a query. -/
theorem addSettings_eq (request : Request) (q : Query) :
    request.addSettings q =
      ⟨request.kind.or q.kind, q.ns, q.clauses ++ request.filters,
        Query.addFields q.projections request.select, q.orders ++ request.orders,
        request.limit.or q.limit, request.offset.or q.offset, q.excluded,
        request.timeout.or q.timeout⟩ := by
  obtain ⟨kind, filters, select, orders, limit, offset, find, timeout⟩ := request
  simp only [addSettings, Query.foldl_filterBy, Query.foldl_orderBy]
  cases kind <;> cases limit <;> cases offset <;> cases timeout <;> rfl

/-- The query has the settings of a request and no others, a limit and what its text does not
show aside. -/
structure Carries (request : Request) (q : Query) : Prop where
  kind : q.kind = request.kind
  clauses : q.clauses = request.filters
  projections : q.projections = Query.addFields [] request.select
  orders : q.orders = request.orders
  offset : q.offset = request.offset

theorem carries_addSettings (request : Request) (connection : Connection) :
    request.Carries (request.addSettings connection.query) := by
  rw [addSettings_eq, connection.query_eq]
  exact ⟨Option.or_none, rfl, rfl, rfl, Option.or_none⟩

/-- What a request is shown as and what it runs on a connection have the same text. -/
theorem sameText_addTo (request : Request) (connection : Connection) :
    (request.addTo Query.empty).SameText (request.addTo connection.query) := by
  have hsettings : (request.addSettings Query.empty).SameText
      (request.addSettings connection.query) := by
    rw [addSettings_eq, addSettings_eq, connection.query_eq]
    exact ⟨rfl, rfl, rfl, rfl, rfl, rfl⟩
  unfold addTo
  cases request.find with
  | none => exact hsettings
  | some id =>
    exact ⟨hsettings.kind, congrArg (· ++ _) hsettings.clauses, hsettings.projections,
      hsettings.orders, rfl, hsettings.offset⟩

/-- What a request to find an entity is shown as is the text of the look-up, whatever limit the
query had. -/
theorem Carries.sameText_lookup {request : Request} {q : Query} (h : request.Carries q)
    {id : Json} (hfind : request.find = some id) :
    (request.addTo Query.empty).SameText (q.lookup (.literal id) []) := by
  have hshown : request.addTo Query.empty =
      ((request.addSettings Query.empty).filterEq identityField (.literal id)).limitTo 1 := by
    rw [addTo, hfind]
    rfl
  have hlookup : q.lookup (.literal id) [] = (q.withIdentity (.literal id)).limitTo 1 :=
    Query.withColumns_nil _
  rw [hshown, hlookup, addSettings_eq]
  refine ⟨?_, ?_, h.projections.symm, h.orders.symm, rfl, ?_⟩
  · show request.kind.or none = q.kind
    rw [Option.or_none, h.kind]
  · show request.filters ++ [_] = q.clauses ++ [_]
    rw [h.clauses]
  · show request.offset.or none = q.offset
    rw [Option.or_none, h.offset]

end Request

/-! ## Running -/

variable {σ : Type} [EntityStore σ]

/-- A look-up that does not compile fails, and nothing happens. -/
theorem Query.find_of_error {q : Query} {id : FilterValue} {columns : List String} {e : QueryError}
    (h : (q.lookup id columns).compile = .error e) (s : Session σ) :
    q.find id columns s = (.error e, s) := by
  have hlookup : ((q.withIdentity id).limitTo 1).withColumns columns = q.lookup id columns := rfl
  simp only [find, first, get, hlookup, h]

namespace Request

/-- The operation that a request ends in. -/
def reading (request : Request) : Reading :=
  match request.find with
  | some _ => .first []
  | none => .get []

/-- The limit of a request to find an entity is set already. -/
theorem query_reading (request : Request) (q : Query) :
    request.reading.query (request.addTo q) = request.addTo q := by
  unfold reading addTo
  cases request.find with
  | none => exact Query.withColumns_nil _
  | some id => exact Query.withColumns_nil _

/-- Running a request is carrying out its operation. -/
theorem execute_of_run {request : Request} {connection : Connection} {s s' : Session σ}
    {answer : Except QueryError Found}
    (h : request.reading.run (request.addTo connection.query) s = (answer, s')) :
    (request.execute connection s).2 = s' ∧
      ∀ e, answer = .error e → (request.execute connection s).1 = .error e := by
  rw [execute]
  unfold reading at h
  cases hfind : request.find with
  | none =>
    rw [hfind] at h
    simp only [Reading.run] at h
    cases hget : (request.addTo connection.query).get [] s with
    | mk found s₁ =>
      simp only [hget] at h ⊢
      cases found with
      | error e =>
        cases h
        refine ⟨rfl, ?_⟩
        intro e he
        cases he
        rfl
      | ok records =>
        cases h
        refine ⟨rfl, ?_⟩
        intro e he
        cases he
  | some id =>
    rw [hfind] at h
    simp only [Reading.run] at h
    cases hfirst : (request.addTo connection.query).first [] s with
    | mk found s₁ =>
      simp only [hfirst] at h ⊢
      cases found with
      | error e =>
        cases h
        refine ⟨rfl, ?_⟩
        intro e he
        cases he
        rfl
      | ok record =>
        cases h
        refine ⟨by cases record <;> rfl, ?_⟩
        intro e he
        cases record <;> cases he

/-- The namespace of what is run is that of the connection, and the timeout too unless the request
has its own. -/
theorem addTo_context (request : Request) (connection : Connection) :
    (request.addTo connection.query).ns = connection.config.ns ∧
      (request.addTo connection.query).timeout =
        request.timeout.or connection.config.timeout := by
  unfold addTo
  rw [addSettings_eq, connection.query_eq]
  cases request.find <;> exact ⟨rfl, rfl⟩

/-- A request that is shown as a text submits one query with this text, whatever the store. -/
theorem execute_of_render {request : Request} {gql : String} (h : request.render = .ok gql)
    (connection : Connection) (s : Session σ) :
    (request.execute connection s).2.store =
      (EntityStore.runQuery ⟨gql, true, connection.config.ns,
        request.timeout.or connection.config.timeout⟩ s.store).2 := by
  obtain ⟨compiled, hcompile, hprepare⟩ := (request.sameText_addTo connection).compile_of_toGql h
  obtain ⟨hns, htimeout⟩ := request.addTo_context connection
  rw [hns, htimeout] at hprepare
  rw [← hprepare]
  cases hrun : EntityStore.runQuery compiled.prepare s.store with
  | mk reply store =>
    rw [← request.query_reading] at hcompile
    obtain ⟨journal, hreading⟩ := Reading.run_eq hcompile hrun
    rw [(execute_of_run hreading).1]

/-- A request that cannot be shown fails in the same way, and nothing happens. -/
theorem execute_of_render_error {request : Request} {e : QueryError}
    (h : request.render = .error e) (connection : Connection) (s : Session σ) :
    request.execute connection s = (.error e, s) := by
  have hcompile := (request.sameText_addTo connection).compile_eq_error h
  rw [← request.query_reading] at hcompile
  obtain ⟨hstore, herror⟩ := execute_of_run (Reading.run_of_error hcompile s)
  exact Prod.ext (herror e rfl) hstore

/-- The look-up of the id of a request submits the text that the request is shown as. -/
theorem Carries.find_of_render {request : Request} {q : Query} (hcarries : request.Carries q)
    {id : Json} (hfind : request.find = some id) (s : Session σ) :
    (∀ gql, request.render = .ok gql → (q.find (.literal id) [] s).2.store =
      (EntityStore.runQuery ⟨gql, true, q.ns, q.timeout⟩ s.store).2) ∧
    ∀ e, request.render = .error e → q.find (.literal id) [] s = (.error e, s) := by
  have hlookup := hcarries.sameText_lookup hfind
  constructor
  · intro gql h
    obtain ⟨compiled, hcompile, hprepare⟩ := hlookup.compile_of_toGql h
    have hcontext : (q.lookup (.literal id) []).ns = q.ns ∧
        (q.lookup (.literal id) []).timeout = q.timeout := by
      rw [Query.lookup_eq]
      exact ⟨rfl, rfl⟩
    rw [Query.find_store hcompile, hprepare, hcontext.1, hcontext.2]
  · intro e h
    exact Query.find_of_error (hlookup.compile_eq_error h) s

end Request

/-- The command that runs an input submits what the command that shows it says, and fails as that
does. -/
theorem Command.answerInput_of_renderInput (connection : Connection)
    (input : Except String String) (s : Session MemoryStore) :
    (∀ shown, renderInput input = .ok shown →
      ∃ query, shown = .object [("gql", .string query.gql)] ∧
        (answerInput connection input s).2.store = (EntityStore.runQuery query s.store).2) ∧
    ∀ e, renderInput input = .error e → answerInput connection input s = (.error e, s) := by
  unfold renderInput answerInput
  cases hread : readRequest input with
  | error e =>
    constructor
    · intro shown h
      cases h
    · intro e' h
      cases h
      rfl
  | ok request =>
    cases hrender : request.render with
    | error e =>
      simp only [hrender, Request.execute_of_render_error hrender]
      constructor
      · intro shown h
        cases h
      · intro e' h
        cases h
        rfl
    | ok gql =>
      have hstore := Request.execute_of_render hrender connection s
      simp only [hrender]
      constructor
      · intro shown h
        cases h
        refine ⟨⟨gql, true, connection.config.ns,
          request.timeout.or connection.config.timeout⟩, rfl, ?_⟩
        cases hexecute : request.execute connection s with
        | mk answer s' =>
          rw [hexecute] at hstore
          cases answer <;> exact hstore
      · intro e h
        cases h

/-! ## The result -/

namespace Request

/-- What a request on a connection to a store in memory is shown as is what it runs: the text of
the one query that the store receives, or the failure, of which the store hears nothing.  A
request to find an entity is shown as the text of the look-up on any query with its settings, and
the command that runs an input does with it what the one that shows it says. -/
theorem runs_what_it_shows (request : Request) (connection : Connection)
    (s : Session MemoryStore) :
    (∀ gql, request.render = .ok gql →
      (request.execute connection s).2.store =
        { s.store with executed := s.store.executed ++ [⟨gql, true, connection.config.ns,
          request.timeout.or connection.config.timeout⟩] } ∧
      ∀ id q, request.find = some id → request.Carries q →
        (q.find (.literal id) [] s).2.store =
          { s.store with executed := s.store.executed ++ [⟨gql, true, q.ns, q.timeout⟩] }) ∧
    (∀ e, request.render = .error e →
      request.execute connection s = (.error e, s) ∧
      ∀ id q, request.find = some id → request.Carries q →
        q.find (.literal id) [] s = (.error e, s)) ∧
    ∀ input,
      (∀ shown, Command.renderInput input = .ok shown →
        ∃ query, shown = .object [("gql", .string query.gql)] ∧
          (Command.answerInput connection input s).2.store =
            { s.store with executed := s.store.executed ++ [query] }) ∧
      ∀ e, Command.renderInput input = .error e →
        Command.answerInput connection input s = (.error e, s) := by
  refine ⟨?_, ?_, ?_⟩
  · intro gql h
    refine ⟨execute_of_render h connection s, ?_⟩
    intro id q hfind hcarries
    exact (hcarries.find_of_render hfind s).1 gql h
  · intro e h
    refine ⟨execute_of_render_error h connection s, ?_⟩
    intro id q hfind hcarries
    exact (hcarries.find_of_render hfind s).2 e h
  · intro input
    exact Command.answerInput_of_renderInput connection input s

/-- The request to find a widget by its id, with a limit that does not matter. -/
def seventhWidget : Request :=
  ⟨some "Widget", [⟨"n", "=", .literal .null, .and⟩], [], [], some 5, none, some (.ofInt64 7), none⟩

/-- A connection with a namespace and a timeout. -/
def tenantConnection : Connection := ⟨⟨"p", some "tenant", some 30, "info"⟩⟩

/-- The request is shown as the text that it submits, and a look-up on the connection submits. -/
theorem runs_what_it_shows_seventh :
    seventhWidget.render =
        .ok "SELECT * FROM Widget WHERE n = NULL AND __key__ = KEY(Widget, 7) LIMIT 1" ∧
      seventhWidget.find = some (.ofInt64 7) ∧
      seventhWidget.Carries (seventhWidget.addSettings tenantConnection.query) ∧
      (seventhWidget.execute tenantConnection ⟨MemoryStore.empty, .empty .info⟩).2.store.executed =
        [⟨"SELECT * FROM Widget WHERE n = NULL AND __key__ = KEY(Widget, 7) LIMIT 1", true,
          some "tenant", some 30⟩] ∧
      ((seventhWidget.addSettings tenantConnection.query).find (.literal (.ofInt64 7)) []
          ⟨MemoryStore.empty, .empty .info⟩).2.store.executed =
        [⟨"SELECT * FROM Widget WHERE n = NULL AND __key__ = KEY(Widget, 7) LIMIT 1", true,
          some "tenant", some 30⟩] := by
  have hrender : seventhWidget.render =
      .ok "SELECT * FROM Widget WHERE n = NULL AND __key__ = KEY(Widget, 7) LIMIT 1" := by
    rfl
  have hcarries := seventhWidget.carries_addSettings tenantConnection
  obtain ⟨hexecute, hfind⟩ := (runs_what_it_shows seventhWidget tenantConnection
    ⟨MemoryStore.empty, .empty .info⟩).1 _ hrender
  refine ⟨hrender, rfl, hcarries, ?_, ?_⟩
  · rw [hexecute]
    rfl
  · rw [hfind _ _ rfl hcarries]
    rfl

end Request

end EntityQuery
