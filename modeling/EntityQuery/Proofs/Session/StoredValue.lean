import EntityQuery.Proofs.Json.SelfComparison
import EntityQuery.Proofs.Session.Insertions
import EntityQuery.Store.Memory

/-!
# Filtering by a value that is stored

A value goes two ways into a comparison: it is stored as it is, and a filter writes it as query
text that is read again.

* One condition.  `Condition.holds_value` says when a condition on a property holds, and
  `Query.get_filter` what a query with one such condition answers where the store keeps one
  entity.
* One entity.  `MemoryStore.insert_into_empty`: an insertion into a store without entities
  succeeds and leaves one entity.
* The result.  `Query.filter_by_stored_value`.
-/

namespace EntityQuery

/-! ## One condition -/

/-- Whether the operator accepts how two values compare.  Values that do not compare are
different. -/
def Operator.accepts (op : Operator) : Option Ordering → Bool
  | some ordering => op.holds ordering
  | none => op.isNotEqual

/-- A condition on a property that is there holds as its operator says. -/
theorem Condition.holds_eq {condition : Condition} (hfield : condition.field ≠ keyField)
    {e : Entity} {actual : Json} (hactual : e.get? condition.field = some actual) :
    condition.holds e = condition.op.accepts (orderOperand? actual condition.operand) := by
  rw [holds, if_neg hfield, hactual]
  simp only
  cases orderOperand? actual condition.operand <;> rfl

/-- A condition on a property that is there compares its value. -/
theorem Condition.holds_value {field : String} (hfield : field ≠ keyField) (op : Operator)
    (w : Json) {e : Entity} {v : Json} (hvalue : e.get? field = some v) :
    (⟨field, op, .value w⟩ : Condition).holds e = op.accepts (v.order? w) :=
  holds_eq hfield hvalue

/-- The condition of a clause whose operator is spelled as it is written. -/
theorem Clause.condition_eq (field : String) (op : Operator) (value : FilterValue) :
    (⟨field, op.text, value, .and⟩ : Clause).condition = ⟨field, op, value.operand⟩ := by
  have hop : Clause.op ⟨field, op.text, value, .and⟩ = op := (Clause.isWritten_of_operator rfl).1
  rw [condition, hop]

namespace Statement

/-- A statement of one condition is met by what the condition holds of. -/
theorem isMetBy_of_groups {s : Statement} {condition : Condition} (h : s.groups = [[condition]])
    (e : Entity) : s.isMetBy e = condition.holds e := by
  rw [isMetBy, h]
  simp

/-- Without a window, what is returned of one entity is the entity, if it is found. -/
theorem run_singleton {s : Statement} (hprojection : s.projection = []) (hlimit : s.limit = none)
    (hoffset : s.offset = none) (e : Entity) : s.run [e] = if s.finds e then [e] else [] := by
  have hselect : ∀ e : Entity, e.select s.projection = e := by
    intro e
    rw [hprojection]
    rfl
  simp only [run, hlimit, hoffset, hselect]
  cases hfound : s.finds e <;> simp [hfound, defaultLimit]

end Statement

namespace Query

/-- What a query with one more condition, on another field than the id, is compiled to. -/
def compiledFilter (q : Query) (kind field : String) (op : Operator) (value : FilterValue) :
    CompiledQuery :=
  ⟨{ q with clauses := [⟨field, op.text, value, .and⟩] }, kind⟩

/-- A query with one more clause is compiled if the clause is. -/
theorem compile_filter_of_clause {q : Query} {kind field raw : String} {value : FilterValue}
    {clause : Clause} (hkind : q.kind = some kind) (hclauses : q.clauses = [])
    (hclause : Clause.compile kind ⟨field, raw, value, .and⟩ = .ok clause) :
    (q.filter field raw value).compile = .ok ⟨{ q with clauses := [clause] }, kind⟩ := by
  rw [filter, filterBy, hclauses, List.nil_append, compile]
  simp only [hkind, Clause.compileAll, hclause]

theorem compile_filter {q : Query} {kind field raw : String} {op : Operator} {value : FilterValue}
    (hkind : q.kind = some kind) (hclauses : q.clauses = []) (hfield : field ≠ identityField)
    (hread : Operator.read raw = .ok op) :
    ((q.filter field raw value).withColumns []).compile =
      .ok (q.compiledFilter kind field op value) := by
  rw [withColumns_nil]
  exact compile_filter_of_clause hkind hclauses (Clause.compile_onProperty hfield hread kind value)

/-- The statement of one condition finds an entity that the condition holds of. -/
theorem finds_compiledFilter {q : Query} {kind field : String} {op : Operator} {value : FilterValue}
    (hprojections : q.projections = []) (e : Entity) :
    (q.compiledFilter kind field op value).statement.finds e =
      (⟨field, op, value.operand⟩ : Condition).holds e := by
  have hgroups : (q.compiledFilter kind field op value).statement.groups =
      [[⟨field, op, value.operand⟩]] := by
    show [[(⟨field, op.text, value, .and⟩ : Clause).condition]] = _
    rw [Clause.condition_eq]
  have hall : e.hasAll (q.compiledFilter kind field op value).statement.projection = true := by
    show e.hasAll q.projections = true
    rw [hprojections]
    rfl
  rw [Statement.finds, hall, Bool.and_true, Statement.isMetBy_of_groups hgroups]

variable {q : Query} {kind : String} {s : Session MemoryStore} {e : Entity}

/-- Where the store keeps one entity of the kind, a query with one condition gives its record if
the operator accepts how the stored value compares with what is read of the given one. -/
theorem get_filter (hkind : q.kind = some kind) (hclauses : q.clauses = [])
    (hprojections : q.projections = []) (hlimit : q.limit = none) (hoffset : q.offset = none)
    (hup : s.store.isUnavailable = false) (hshelf : s.store.shelf (q.ns, kind) = [e])
    {field raw : String} {op : Operator} {stored v : Json} (hidentity : field ≠ identityField)
    (hkey : field ≠ keyField) (hread : Operator.read raw = .ok op)
    (hvalue : e.get? field = some stored) :
    ((q.filter field raw (.literal v)).get [] s).1 =
      .ok (if op.accepts (stored.order? v.reread) then [Record.ofEntity e] else []) := by
  have hcompile : ((q.filter field raw (.literal v)).withColumns []).compile =
      .ok (q.compiledFilter kind field op (.literal v)) :=
    compile_filter hkind hclauses hidentity hread
  have hreadable : (q.compiledFilter kind field op (.literal v)).isReadable = true := by
    show ([⟨field, op.text, .literal v, .and⟩].all (fun c : Clause => c.value.isReadable) &&
      CompiledQuery.countIsReadable q.limit && CompiledQuery.countIsReadable q.offset) = true
    rw [hlimit, hoffset]
    rfl
  have hrun : (q.compiledFilter kind field op (.literal v)).statement.run [e] =
      if op.accepts (stored.order? v.reread) then [e] else [] := by
    rw [Statement.run_singleton hprojections hlimit hoffset, finds_compiledFilter hprojections,
      FilterValue.operand, Condition.holds_value hkey op v.reread hvalue]
  rw [get, hcompile]
  refine (CompiledQuery.executeAll_eq_ok_iff (CompiledQuery.isWritten_of_compile hcompile)).2
    ⟨hup, hreadable, ?_⟩
  show _ = ((q.compiledFilter kind field op (.literal v)).statement.run
    (s.store.shelf (q.ns, kind))).map Record.ofEntity
  rw [hshelf, hrun]
  split <;> rfl

end Query

/-! ## One entity -/

namespace MemoryStore

/-- A store that answers and keeps nothing keeps an entity under a complete key, and then it is
the only one in its partition. -/
theorem insert_into_empty {store : MemoryStore} {e : Entity} {address : Key.Address}
    (hnone : store.entities = ∅) (hup : store.isUnavailable = false)
    (haddress : e.key.address? = some address) :
    ∃ store', store.insert e = (.ok e.key, store') ∧ store'.isUnavailable = false ∧
      store'.shelf address.1 = [e] := by
  have habsent : store.entities.get? address = none := by
    rw [hnone]
    rfl
  refine ⟨{ store with
      sequences := store.advance e.key
      entities := store.entities.insert address e
      writes := store.writes + 1 }, ?_, hup, ?_⟩
  · rw [insert, hup]
    simp only [haddress, habsent, Bool.false_eq_true, if_false]
  · have hentries : (store.entities.insert address e).entries = [(address, e)] := by
      rw [hnone]
      rfl
    rw [shelf, hentries]
    simp

end MemoryStore

/-! ## The result -/

namespace Query

/-- What the filters that compare a field with a value give: one of equality, and one of
inequality. -/
structure FilterGives (q : Query) (field : String) (v : Json) (s : Session MemoryStore)
    (equal differing : List Record) : Prop where
  equal : ((q.filterEq field (.literal v)).get [] s).1 = .ok equal
  differing : ((q.filter field "!=" (.literal v)).get [] s).1 = .ok differing

/-- Where the store keeps one entity with a value for a field, the filters by this value tell
whether there is an object in it. -/
structure TellsObjects (q : Query) (field : String) (v : Json) (s : Session MemoryStore) :
    Prop where
  /-- Without objects the value is equal to itself, if the integers inside arrays are signed
  integers of 64 bits. -/
  plain : v.hasObject = false → (∀ items, v = .array items → v.fitsInt64 = true) →
    q.FilterGives field v s [⟨[(field, v)]⟩] []
  /-- With an object the value differs from the text that is made of it. -/
  object : v.hasObject = true → q.FilterGives field v s [] [⟨[(field, v)]⟩]

variable {q : Query} {kind field : String}

theorem tellsObjects_of_shelf (hkind : q.kind = some kind) (hclauses : q.clauses = [])
    (hprojections : q.projections = []) (hlimit : q.limit = none) (hoffset : q.offset = none)
    (hidentity : field ≠ identityField) (hkey : field ≠ keyField) {v : Json} {e : Entity}
    {s : Session MemoryStore} (hup : s.store.isUnavailable = false)
    (hshelf : s.store.shelf (q.ns, kind) = [e]) (hproperties : e.properties = [(field, v)]) :
    q.TellsObjects field v s := by
  have hvalue : e.get? field = some v := by
    rw [Entity.get?, hproperties, findEntry_cons, if_pos rfl]
  have hrecord : Record.ofEntity e = ⟨[(field, v)]⟩ := by rw [Record.ofEntity, hproperties]
  have hequal := get_filter (v := v) hkind hclauses hprojections hlimit hoffset hup hshelf hidentity
    hkey (show Operator.read "=" = .ok .equal by decide) hvalue
  have hdiffering := get_filter (v := v) hkind hclauses hprojections hlimit hoffset hup hshelf
    hidentity hkey (show Operator.read "!=" = .ok .notEqual by decide) hvalue
  rw [hrecord] at hequal hdiffering
  constructor
  · intro hobject hfits
    have hself := Json.order?_reread_self hobject hfits
    rw [hself] at hequal hdiffering
    exact ⟨hequal, hdiffering⟩
  · intro hobject
    have hne := Json.order?_reread_ne hobject
    have hnot : Operator.equal.accepts (v.order? v.reread) = false ∧
        Operator.notEqual.accepts (v.order? v.reread) = true := by
      cases horder : v.order? v.reread with
      | none => exact ⟨rfl, rfl⟩
      | some ordering =>
        cases ordering with
        | eq => exact absurd horder hne
        | lt | gt => exact ⟨rfl, rfl⟩
    rw [hnot.1] at hequal
    rw [hnot.2] at hdiffering
    exact ⟨hequal, hdiffering⟩

/-- The first entity that a query inserts into the empty store gets the id 1, and it is then the
only one of its kind. -/
theorem insertGetId_into_empty (hkind : q.kind = some kind) (properties : Properties)
    (journal : Journal) :
    ∃ s e, q.insertGetId properties ⟨MemoryStore.empty, journal⟩ = (.ok (.number 1), s) ∧
      s.store.isUnavailable = false ∧ s.store.shelf (q.ns, kind) = [e] ∧
      e.properties = properties := by
  have hallocate : EntityStore.allocate ((Key.incomplete kind).withNamespace q.ns)
      MemoryStore.empty = (.ok ((Key.root kind (.number 1)).withNamespace q.ns),
        (MemoryStore.empty.allocate ((Key.incomplete kind).withNamespace q.ns)).2) := rfl
  obtain ⟨store, hinsert, hup, hshelf⟩ := @MemoryStore.insert_into_empty
    (MemoryStore.empty.allocate ((Key.incomplete kind).withNamespace q.ns)).2
    (.create ((Key.root kind (.number 1)).withNamespace q.ns) properties q.excluded) _ rfl rfl rfl
  obtain ⟨journal', hreturned⟩ :
      ∃ journal', Session.insertGetId ⟨MemoryStore.empty, journal⟩ kind q.ns properties
        q.excluded = (.ok (.number 1), ⟨store, journal'⟩) :=
    Session.insertGetId_eq_ok_of_store rfl hallocate hinsert
  refine ⟨⟨store, journal'⟩, _, ?_, hup, hshelf, rfl⟩
  rw [insertGetId, hkind]
  exact hreturned

/-- An entity with one property is inserted into the empty store, under an id that the store gives
out or under any complete key of the kind and namespace.  The filters by the value of the property
then tell it from nothing: equality gives it and inequality does not, unless there is an object in
the value. -/
theorem filter_by_stored_value (v : Json) (hkind : q.kind = some kind) (hclauses : q.clauses = [])
    (hprojections : q.projections = []) (hlimit : q.limit = none) (hoffset : q.offset = none)
    (hidentity : field ≠ identityField) (hkey : field ≠ keyField) :
    (∀ journal, ∃ id s, q.insertGetId [(field, v)] ⟨MemoryStore.empty, journal⟩ = (.ok id, s) ∧
      q.TellsObjects field v s) ∧
    ∀ (key : Key) excluded, key.partition = (q.ns, kind) → key.address?.isSome = true →
      ∃ store, MemoryStore.empty.insert ⟨key, [(field, v)], excluded⟩ = (.ok key, store) ∧
        ∀ journal, q.TellsObjects field v ⟨store, journal⟩ := by
  have htells : ∀ {e : Entity} {s : Session MemoryStore}, s.store.isUnavailable = false →
      s.store.shelf (q.ns, kind) = [e] → e.properties = [(field, v)] → q.TellsObjects field v s :=
    tellsObjects_of_shelf hkind hclauses hprojections hlimit hoffset hidentity hkey
  constructor
  · intro journal
    obtain ⟨s, e, hinsert, hup, hshelf, hproperties⟩ :=
      insertGetId_into_empty hkind [(field, v)] journal
    exact ⟨_, s, hinsert, htells hup hshelf hproperties⟩
  · intro key excluded hpartition hcomplete
    obtain ⟨address, haddress⟩ := Option.isSome_iff_exists.1 hcomplete
    obtain ⟨store, hinsert, hup, hshelf⟩ := @MemoryStore.insert_into_empty .empty
      ⟨key, [(field, v)], excluded⟩ address rfl rfl haddress
    rw [Key.address?_fst haddress, hpartition] at hshelf
    exact ⟨store, hinsert, fun journal => htells hup hshelf rfl⟩

/-- An array in an array is equal to itself. -/
theorem filter_by_stored_value_nested :
    "tags" ≠ identityField ∧ "tags" ≠ keyField ∧
      ∃ id s, (Query.empty.ofKind "Widget").insertGetId
          [("tags", .array [.array [.string "it's"], .null])]
          ⟨MemoryStore.empty, .empty .info⟩ = (.ok id, s) ∧
        (Query.empty.ofKind "Widget").FilterGives "tags" (.array [.array [.string "it's"], .null]) s
          [⟨[("tags", .array [.array [.string "it's"], .null])]⟩] [] := by
  have hidentity : "tags" ≠ identityField := by decide
  have hkey : "tags" ≠ keyField := by decide
  obtain ⟨hgiven, -⟩ := filter_by_stored_value (q := Query.empty.ofKind "Widget")
    (.array [.array [.string "it's"], .null]) rfl rfl rfl rfl rfl hidentity hkey
  obtain ⟨id, s, hinsert, htells⟩ := hgiven (.empty .info)
  have hfits : ∀ items, Json.array [.array [.string "it's"], .null] = .array items →
      Json.fitsInt64 (.array [.array [.string "it's"], .null]) = true := fun _ _ => rfl
  exact ⟨hidentity, hkey, id, s, hinsert, htells.plain rfl hfits⟩

/-- Not every value is equal to itself: inequality gives the entity with an empty object. -/
theorem filter_by_stored_value_object :
    ¬∀ (kind field : String) (v : Json), field ≠ identityField → field ≠ keyField →
      ∀ id s, (Query.empty.ofKind kind).insertGetId [(field, v)]
          ⟨MemoryStore.empty, .empty .info⟩ = (.ok id, s) →
        (Query.empty.ofKind kind).FilterGives field v s [⟨[(field, v)]⟩] [] := by
  intro hall
  have hidentity : "v" ≠ identityField := by decide
  have hkey : "v" ≠ keyField := by decide
  obtain ⟨s, e, hinsert, hup, hshelf, hproperties⟩ := insertGetId_into_empty
    (q := Query.empty.ofKind "Widget") rfl [("v", .object [])] (.empty .info)
  have hfound := (hall "Widget" "v" (.object []) hidentity hkey _ s hinsert).equal
  have hnone := ((tellsObjects_of_shelf rfl rfl rfl rfl rfl hidentity hkey hup hshelf
    hproperties).object rfl).equal
  rw [hnone] at hfound
  cases hfound

end Query

end EntityQuery
