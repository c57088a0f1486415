import EntityQuery.Proofs.Session.Lookup
import EntityQuery.Proofs.Store.Addressed
import EntityQuery.Proofs.Store.ResultOrder

/-!
# The window of a query

A query returns a window of the entities that match it: those from its offset on, up to its
limit, in the order of the results.

* Shelves.  `MemoryStore.IsFiled.pairwise_shelf`: the entities of a partition stand in the
  order of their ids.
* Matching.  `MemoryStore.Matches` says which entities a statement is about, and
  `MemoryStore.IsFiled.matches_iff` that these are found.
* Projecting.  `Entity.get?_select` and `Entity.mem_fields_select`: what is left of an entity.
* The result.  `MemoryStore.run_returns_window`.
-/

namespace EntityQuery

open TotalOrder

namespace Statement

/-- The number of entities that a query leaves out at the front. -/
def skipped (s : Statement) : Nat := (s.offset.map UInt64.toNat).getD 0

/-- The number of entities that a query returns at most. -/
def capacity (s : Statement) : Nat := (s.limit.map UInt64.toNat).getD 1000

theorem finds_iff {s : Statement} {e : Entity} :
    s.finds e = true ↔
      (s.groups = [] ∨ ∃ group ∈ s.groups, ∀ condition ∈ group, condition.holds e = true) ∧
        ∀ field ∈ s.projection, (e.get? field).isSome = true := by
  rw [finds, isMetBy, Entity.hasAll, Bool.and_eq_true, Bool.or_eq_true,
    List.isEmpty_iff, List.any_eq_true, List.all_eq_true]
  simp only [List.all_eq_true]

end Statement

/-! ## Projecting -/

theorem findEntry_filter {fields : List String} {field : String} (h : field ∈ fields)
    (properties : Properties) :
    findEntry field (properties.filter fun property => fields.contains property.1) =
      findEntry field properties := by
  induction properties with
  | nil => rfl
  | cons property properties ih =>
    rw [List.filter_cons, findEntry_cons]
    by_cases hsame : field = property.1
    · have hkept : fields.contains property.1 = true := List.contains_iff_mem.2 (hsame ▸ h)
      rw [if_pos hkept, findEntry_cons, if_pos hsame, if_pos hsame]
    · rw [if_neg hsame]
      split
      · rw [findEntry_cons, if_neg hsame, ih]
      · exact ih

namespace Entity

/-- Fields that are returned keep their values. -/
theorem get?_select {fields : List String} {field : String} (h : field ∈ fields) (e : Entity) :
    (e.select fields).get? field = e.get? field := by
  have hsome : fields.isEmpty = false := List.isEmpty_eq_false_iff.2 (List.ne_nil_of_mem h)
  rw [select, hsome]
  exact findEntry_filter h e.properties

/-- An entity that has the fields to return has exactly these where it is returned. -/
theorem mem_fields_select {fields : List String} (hne : fields ≠ []) {e : Entity}
    (hall : ∀ field ∈ fields, (e.get? field).isSome = true) (field : String) :
    field ∈ (e.select fields).properties.map Prod.fst ↔ field ∈ fields := by
  have hsome : fields.isEmpty = false := List.isEmpty_eq_false_iff.2 hne
  have hselect : (e.select fields).properties =
      e.properties.filter fun property => fields.contains property.1 := by
    rw [select, hsome]
    rfl
  rw [hselect]
  constructor
  · intro hmem
    obtain ⟨property, hproperty, rfl⟩ := List.mem_map.1 hmem
    exact List.contains_iff_mem.1 (List.mem_filter.1 hproperty).2
  · intro hmem
    obtain ⟨value, hvalue⟩ := Option.isSome_iff_exists.1 (hall field hmem)
    have hkept := mem_of_findEntry_eq_some hvalue
    exact List.mem_map.2
      ⟨(field, value), List.mem_filter.2 ⟨hkept, List.contains_iff_mem.2 hmem⟩, rfl⟩

end Entity

namespace MemoryStore

/-! ## Shelves -/

theorem IsFiled.ids?_eq {store : MemoryStore} (h : store.IsFiled) {place : Key.Address}
    {e : Entity} (hmem : (place, e) ∈ store.entities.entries) : e.key.ids? = some place.2 := by
  have haddress := h.address ((OrderedMap.mem_entries_iff ..).1 hmem)
  obtain ⟨ids, hids, rfl⟩ := Option.map_eq_some_iff.1 haddress
  exact hids

/-- The entities of a partition stand in the order of the ids on their paths. -/
theorem IsFiled.pairwise_shelf {store : MemoryStore} (h : store.IsFiled)
    (partition : Key.Partition) :
    (store.shelf partition).Pairwise fun a b => order a.key.ids? b.key.ids? = .lt := by
  have hascending : store.entities.entries.Pairwise fun a b => order a.1 b.1 = .lt :=
    store.entities.ascending
  rw [shelf, List.pairwise_map]
  refine (hascending.filter _).imp_of_mem ?_
  rintro ⟨⟨own, ids⟩, a⟩ ⟨⟨other, ids'⟩, b⟩ ha hb hlt
  obtain ⟨hmemA, hown⟩ := List.mem_filter.1 ha
  obtain ⟨hmemB, hother⟩ := List.mem_filter.1 hb
  rw [beq_iff_eq] at hown hother
  cases hown
  cases hother
  rw [h.ids?_eq hmemA, h.ids?_eq hmemB]
  rcases Ordering.then_eq_lt.1 hlt with hpartition | ⟨-, hpath⟩
  · rw [order_self] at hpartition
    cases hpartition
  · exact hpath

theorem IsFiled.nodup_shelf {store : MemoryStore} (h : store.IsFiled)
    (partition : Key.Partition) : (store.shelf partition).Nodup := by
  refine (h.pairwise_shelf partition).imp ?_
  rintro a b hlt rfl
  rw [order_self] at hlt
  cases hlt

/-! ## Matching -/

/-- The entity is kept in the partition of a statement, meets its filter, and has the fields to
return. -/
structure Matches (store : MemoryStore) (ns : Option String) (s : Statement) (e : Entity) :
    Prop where
  keeps : store.Keeps e
  partition : e.key.partition = (ns, s.kind)
  /-- There is no filter, or all conditions of one group hold. -/
  filter : s.groups = [] ∨
    ∃ group ∈ s.groups, ∀ condition ∈ group, condition.holds e = true
  fields : ∀ field ∈ s.projection, (e.get? field).isSome = true

theorem IsFiled.matches_iff {store : MemoryStore} (h : store.IsFiled) {ns : Option String}
    {s : Statement} {e : Entity} :
    store.Matches ns s e ↔ e ∈ store.shelf (ns, s.kind) ∧ s.finds e = true := by
  rw [mem_shelf, Statement.finds_iff]
  constructor
  · rintro ⟨⟨⟨partition, ids⟩, hkept⟩, hpartition, hfilter, hfields⟩
    have hown : partition = (ns, s.kind) :=
      (Key.address?_fst (h.address hkept)).trans hpartition
    rw [hown] at hkept
    exact ⟨⟨ids, hkept⟩, hfilter, hfields⟩
  · rintro ⟨⟨ids, hkept⟩, hfilter, hfields⟩
    exact ⟨⟨_, hkept⟩, (Key.address?_fst (h.address hkept)).symm, hfilter, hfields⟩

/-! ## The result -/

/-- The entities that match a statement, each once and in the order of the results, cut into those
before the offset, those up to the limit, and the others. -/
structure IsWindow (store : MemoryStore) (ns : Option String) (s : Statement)
    (before window after : List Entity) : Prop where
  mem_iff : ∀ e, e ∈ before ++ window ++ after ↔ store.Matches ns s e
  distinct : (before ++ window ++ after).Nodup
  ascending : (before ++ window ++ after).Pairwise fun a b => s.resultOrder a b = .lt
  length_before : before.length = min s.skipped (before ++ window ++ after).length
  length_window : window.length =
    min s.capacity ((before ++ window ++ after).length - s.skipped)

/-- The entities that match, in order, are cut at the offset and behind the limit. -/
theorem isWindow_of_ascending {store : MemoryStore} {ns : Option String} {s : Statement}
    {found : List Entity} (hmem : ∀ e, e ∈ found ↔ store.Matches ns s e) (hnodup : found.Nodup)
    (hascending : found.Pairwise fun a b => s.resultOrder a b = .lt) :
    store.IsWindow ns s (found.take s.skipped) ((found.drop s.skipped).take s.capacity)
      ((found.drop s.skipped).drop s.capacity) := by
  have hall : found.take s.skipped ++ (found.drop s.skipped).take s.capacity ++
      (found.drop s.skipped).drop s.capacity = found := by
    rw [List.append_assoc, List.take_append_drop, List.take_append_drop]
  constructor
  · rw [hall]
    exact hmem
  · rw [hall]
    exact hnodup
  · rw [hall]
    exact hascending
  · rw [hall, List.length_take]
  · rw [hall, List.length_take, List.length_drop]

/-- A store that answers carries out the statement that the text of a query is read as. -/
theorem answer_of_parse {store : MemoryStore} {query : StoreQuery} {s : Statement}
    (hparse : Gql.parse query.gql = .ok s)
    (hliterals : s.hasLiterals = true → query.allowsLiterals = true)
    (hup : store.isUnavailable = false) :
    store.answer query = .ok ((s.run (store.shelf (query.ns, s.kind))).map .ok) := by
  have hallowed : (s.hasLiterals && !query.allowsLiterals) = false := by
    cases hsome : s.hasLiterals with
    | false => rfl
    | true => rw [hliterals hsome]; rfl
  rw [answer, hup, hparse]
  simp only [Bool.false_eq_true, if_false, hallowed]

/-- The entities that a query returns are a window of those that match it, if the values that it
sorts them by can be sorted.  Where fields to return are named, each has exactly these.  A store
that answers gives them to every query with the text of the statement. -/
theorem run_returns_window {store : MemoryStore} (h : store.Reachable) {ns : Option String}
    {s : Statement} (hcan : Statement.CanSort s.orders (store.Matches ns s)) :
    ∃ before window after, store.IsWindow ns s before window after ∧
      s.run (store.shelf (ns, s.kind)) = window.map (fun e => e.select s.projection) ∧
      (s.projection ≠ [] → ∀ e ∈ window,
        (∀ field, field ∈ (e.select s.projection).properties.map Prod.fst ↔
          field ∈ s.projection) ∧
        ∀ field ∈ s.projection, (e.select s.projection).get? field = e.get? field) ∧
      ∀ query, query.ns = ns → Gql.parse query.gql = .ok s →
        (s.hasLiterals = true → query.allowsLiterals = true) → store.isUnavailable = false →
          (store.runQuery query).1 =
            .ok ((window.map fun e => e.select s.projection).map .ok) := by
  have hfiled := h.isFiled
  have hmatches : store.Matches ns s =
      fun e => e ∈ store.shelf (ns, s.kind) ∧ s.finds e = true :=
    funext fun e => propext hfiled.matches_iff
  have hmem : ∀ e, e ∈ s.sorted (store.shelf (ns, s.kind)) ↔ store.Matches ns s e :=
    fun e => Statement.mem_sorted.trans hfiled.matches_iff.symm
  have hnodup : (s.sorted (store.shelf (ns, s.kind))).Nodup :=
    (List.mergeSort_perm ..).nodup_iff.2 ((hfiled.nodup_shelf _).filter _)
  have hascending := Statement.pairwise_resultOrder (hfiled.pairwise_shelf (ns, s.kind))
    (hmatches ▸ hcan)
  have hwindow := isWindow_of_ascending hmem hnodup hascending
  refine ⟨_, _, _, hwindow, rfl, ?_, ?_⟩
  · intro hne e he
    have hfields :=
      ((hwindow.mem_iff e).1 (List.mem_append_left _ (List.mem_append_right _ he))).fields
    exact ⟨Entity.mem_fields_select hne hfields, fun field hfield => Entity.get?_select hfield e⟩
  · rintro query rfl hparse hliterals hup
    exact answer_of_parse hparse hliterals hup

/-- A note with a number and a title, and perhaps with a rank. -/
def note (id : Int64) (title : String) (rank : Option Json) : Entity :=
  ⟨.root "Note" (.number id),
    (rank.toList.map fun value => ("rank", value)) ++ [("title", .string title)], []⟩

/-- A store of notes: two of the same rank, one with a word for its rank, and one without a
rank. -/
def rankedNotes : MemoryStore :=
  run [.insert (note 4 "d" none), .insert (note 2 "b" (some (.ofInt64 7))),
    .insert (note 1 "a" (some (.ofInt64 7))), .insert (note 3 "c" (some (.string "top")))] empty

/-- The query for the titles of two notes, from the highest rank down and behind the first. -/
def titlesByRank : CompiledQuery :=
  ⟨⟨some "Note", none, [], ["title"], [⟨"rank", .descending⟩], some 2, some 1, [], none⟩, "Note"⟩

theorem shelf_rankedNotes : rankedNotes.shelf (none, "Note") =
    [note 1 "a" (some (.ofInt64 7)), note 2 "b" (some (.ofInt64 7)),
      note 3 "c" (some (.string "top")), note 4 "d" none] := rfl

/-- The word comes first; the two notes of the same rank stay in the order of their ids. -/
theorem run_titlesByRank : titlesByRank.statement.run (rankedNotes.shelf (none, "Note")) =
    [note 1 "a" none, note 2 "b" none] := by
  have hfound : (rankedNotes.shelf (none, "Note")).filter titlesByRank.statement.finds =
      rankedNotes.shelf (none, "Note") := rfl
  have hsorted : (rankedNotes.shelf (none, "Note")).mergeSort
        (fun a b => Statement.orderBySpecs titlesByRank.statement.orders a b != .gt) =
      [note 3 "c" (some (.string "top")), note 1 "a" (some (.ofInt64 7)),
        note 2 "b" (some (.ofInt64 7)), note 4 "d" none] := by
    rw [shelf_rankedNotes]
    simp +decide [List.mergeSort]
  rw [Statement.run, hfound, hsorted]
  rfl

theorem canSort_titlesByRank : Statement.CanSort titlesByRank.statement.orders
    (rankedNotes.Matches none titlesByRank.statement) := by
  have hfiled : rankedNotes.IsFiled := Reachable.isFiled ⟨_, rfl⟩
  intro spec hspec
  obtain rfl : spec = ⟨"rank", .descending⟩ := List.mem_singleton.1 hspec
  have hvalues : ∀ {v}, (∃ e, rankedNotes.Matches none titlesByRank.statement e ∧
      e.get? "rank" = some v) → v = .ofInt64 7 ∨ v = .string "top" := by
    rintro v ⟨e, hmatches, hvalue⟩
    have hmem : e ∈ rankedNotes.shelf (none, "Note") := (hfiled.matches_iff.1 hmatches).1
    rw [shelf_rankedNotes] at hmem
    simp only [List.mem_cons, List.not_mem_nil, or_false] at hmem
    rcases hmem with rfl | rfl | rfl | rfl
    · exact .inl (Option.some.inj hvalue).symm
    · exact .inl (Option.some.inj hvalue).symm
    · exact .inr (Option.some.inj hvalue).symm
    · cases hvalue
  constructor
  · intro items members harray
    rcases hvalues harray with h | h <;> cases h
  · intro items harray
    rcases hvalues harray with h | h <;> cases h
  · intro members hobject
    rcases hvalues hobject with h | h <;> cases h
  · left
    intro n hnumber
    rcases hvalues hnumber with h | h
    · cases h
      rfl
    · cases h

/-- The titles of the two notes of the same rank are returned, and the other two are left out. -/
theorem run_returns_window_titles :
    rankedNotes.Reachable ∧
      Statement.CanSort titlesByRank.statement.orders
        (rankedNotes.Matches none titlesByRank.statement) ∧
      ∃ before window after,
        rankedNotes.IsWindow none titlesByRank.statement before window after ∧
        window.map (fun e => e.select ["title"]) = [note 1 "a" none, note 2 "b" none] ∧
        (rankedNotes.runQuery titlesByRank.prepare).1 =
          .ok [.ok (note 1 "a" none), .ok (note 2 "b" none)] := by
  have hreach : rankedNotes.Reachable := ⟨_, rfl⟩
  obtain ⟨before, window, after, hwindow, hrun, -, hanswer⟩ :=
    run_returns_window hreach canSort_titlesByRank
  have hwritten : titlesByRank.IsWritten := CompiledQuery.isWritten_of_compile
    (show titlesByRank.query.compile = .ok titlesByRank from rfl)
  have hanswered := hanswer titlesByRank.prepare rfl (CompiledQuery.parse_gql hwritten rfl)
    (fun _ => rfl) rfl
  have hselected := hrun.symm.trans run_titlesByRank
  rw [hselected] at hanswered
  exact ⟨hreach, canSort_titlesByRank, before, window, after, hwindow, hselected, hanswered⟩

end MemoryStore

end EntityQuery
