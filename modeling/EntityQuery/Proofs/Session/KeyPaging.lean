import EntityQuery.Proofs.Session.Refusal
import EntityQuery.Proofs.Session.StoredValue
import EntityQuery.Proofs.Session.Window
import EntityQuery.Proofs.Store.LawfulSort

/-!
# Paging by key

A kind is read page by page: each page is a query with a limit, which asks for the entities
behind the last one of the page before.

* Ids.  `KeyId.Precedes` is the natural order of ids, and `KeyId.order_eq_lt_iff` that ids are
  compared in it.
* Pages.  `Query.page` is the query for a page, and `Query.ReadsPages` the loop over the pages, on
  any store.
* Lists.  `IsListed` is what the entities of a kind without ancestors are, and
  `IsListed.filter_isMetBy` that the filter of a page cuts them at its id.
* One page.  `Query.HasRead.runQuery_page` says what a store in memory answers to the query for a
  page.
* The result.  `Query.readsPages_lists` is an induction over the pages; what is still to be read
  gets shorter with each.
-/

namespace EntityQuery

open TotalOrder (order order_self)

/-! ## Ids -/

namespace KeyId

/-- The natural order of ids: numbers by size, then names by code point. -/
def Precedes : KeyId → KeyId → Prop
  | .number m, .number n => m.toInt < n.toInt
  | .number _, .name _ => True
  | .name _, .number _ => False
  | .name s, .name t => s < t

theorem order_eq_lt_iff {a b : KeyId} : order a b = .lt ↔ a.Precedes b := by
  cases a with
  | number m =>
    cases b with
    | number n => exact TotalOrder.orderInt_lt_iff
    | name t => exact ⟨fun _ => trivial, fun _ => rfl⟩
  | name s =>
    cases b with
    | number n => exact ⟨nofun, nofun⟩
    | name t => exact TotalOrder.order_text_lt_iff

end KeyId

/-! ## Pages -/

namespace Query

/-- The query for a page of so many entities: the first ones, or those behind an id. -/
def page (q : Query) (kind : String) (n : UInt64) : Option KeyId → Query
  | none => q.limitTo n
  | some id => (q.limitTo n).filter identityField ">" (.key ⟨kind, id⟩)

variable {σ : Type} [EntityStore σ]

/-- Reading page by page, from the begin or from behind an id on.  A page is what the store
streams for its query, the next page is for what lies behind its last entity, and a page without
entities is the end. -/
inductive ReadsPages (q : Query) (kind : String) (n : UInt64) :
    Option KeyId → σ → List (List Entity) → σ → Prop
  | done {after : Option KeyId} {store store' : σ} {compiled : CompiledQuery}
      (hcompile : (q.page kind n after).compile = .ok compiled)
      (hrun : EntityStore.runQuery compiled.prepare store = (.ok [], store')) :
      ReadsPages q kind n after store [] store'
  | next {after : Option KeyId} {store store₁ store₂ : σ} {compiled : CompiledQuery}
      {entities : List Entity} {last : Entity} {id : KeyId} {pages : List (List Entity)}
      (hcompile : (q.page kind n after).compile = .ok compiled)
      (hrun : EntityStore.runQuery compiled.prepare store = (.ok (entities.map .ok), store₁))
      (hlast : entities.getLast? = some last) (hid : last.key.id = some id)
      (hrest : ReadsPages q kind n (some id) store₁ pages store₂) :
      ReadsPages q kind n after store (entities :: pages) store₂

/-- The clauses of a page. -/
def pageClauses (kind : String) : Option KeyId → List Clause
  | none => []
  | some id => [⟨keyField, Operator.greater.text, .key ⟨kind, id⟩, .and⟩]

/-- What the query for a page is compiled to. -/
def compiledPage (q : Query) (kind : String) (n : UInt64) (after : Option KeyId) : CompiledQuery :=
  ⟨{ q with clauses := pageClauses kind after, limit := some n }, kind⟩

theorem compile_page {q : Query} {kind : String} (hkind : q.kind = some kind)
    (hclauses : q.clauses = []) (n : UInt64) (after : Option KeyId) :
    (q.page kind n after).compile = .ok (q.compiledPage kind n after) := by
  cases after with
  | none =>
    cases q
    cases hkind
    cases hclauses
    rfl
  | some id =>
    exact compile_filter_of_clause (q := q.limitTo n) hkind hclauses
      (Clause.compile_onIdentity (show Operator.read ">" = .ok .greater by decide) kind _)

end Query

/-! ## Lists -/

/-- Entities of one kind without ancestors, in ascending order of their ids. -/
structure IsListed (kind : String) (entities : List Entity) : Prop where
  ancestors : ∀ e ∈ entities, e.key.ancestors = []
  kind : ∀ e ∈ entities, e.key.kind = kind
  identified : ∀ e ∈ entities, ∃ id, e.key.id = some id
  ascending : entities.Pairwise fun a b => order a.key.id b.key.id = .lt

/-- The filter of a page is met by the entities behind its id. -/
theorem IsListed.isMetBy_iff {kind : String} {entities : List Entity} (h : IsListed kind entities)
    (q : Query) (n : UInt64) (after : Option KeyId) {e : Entity} (hmem : e ∈ entities) :
    (q.compiledPage kind n after).statement.isMetBy e = true ↔
      ∀ id ∈ after, order (some id) e.key.id = .lt := by
  cases after with
  | none => exact ⟨nofun, fun _ => rfl⟩
  | some id =>
    have hgroups : (q.compiledPage kind n (some id)).statement.groups =
        [[⟨keyField, .greater, .key [(kind, id)]⟩]] := by
      show [[(⟨keyField, Operator.greater.text, .key ⟨kind, id⟩, .and⟩ : Clause).condition]] = _
      rw [Clause.condition_eq]
      rfl
    have horder : e.key.orderPath? [(kind, id)] =
        if e.key.ancestors = [] ∧ e.key.kind = kind then
          e.key.id.map fun own => order own id
        else none := rfl
    obtain ⟨own, hown⟩ := h.identified e hmem
    rw [Statement.isMetBy_of_groups hgroups, Clause.holds_key, horder,
      if_pos ⟨h.ancestors e hmem, h.kind e hmem⟩, hown]
    simp only [Option.map_some, Option.getD_some, Operator.holds, beq_iff_eq, Option.mem_some_iff,
      forall_eq']
    exact TotalOrder.order_gt_iff

/-- The filter of a page leaves what lies behind its id. -/
theorem IsListed.filter_isMetBy {kind : String} {before rest : List Entity}
    (h : IsListed kind (before ++ rest)) {after : Option KeyId}
    (hafter : after = before.getLast?.bind fun e => e.key.id) (q : Query) (n : UInt64) :
    (before ++ rest).filter (q.compiledPage kind n after).statement.isMetBy = rest := by
  have hmet := fun e => h.isMetBy_iff q n after (e := e)
  obtain ⟨hbefore, -, hcross⟩ := List.pairwise_append.1 h.ascending
  have hkept : ∀ e ∈ rest, (q.compiledPage kind n after).statement.isMetBy e = true := by
    intro e hmem
    refine (hmet e (List.mem_append_right _ hmem)).2 fun id hid => ?_
    obtain ⟨last, hlast, hown⟩ := Option.bind_eq_some_iff.1 (hafter.symm.trans hid)
    rw [← hown]
    exact hcross last (List.mem_of_getLast? hlast) e hmem
  have hleft : ∀ e ∈ before, ¬(q.compiledPage kind n after).statement.isMetBy e = true := by
    intro e hmem hbehind
    obtain ⟨init, last, rfl⟩ :=
      (List.eq_nil_or_concat' before).resolve_left (List.ne_nil_of_mem hmem)
    obtain ⟨id, hid⟩ := h.identified last (by simp)
    have hlt : order last.key.id e.key.id = .lt := by
      rw [hid]
      exact (hmet e (List.mem_append_left _ hmem)).1 hbehind id (by simp [hafter, hid])
    -- the last entity of the page before lies behind no other one of it, nor behind itself
    rcases List.mem_append.1 hmem with hinit | hlast
    · have hback := (List.pairwise_append.1 hbefore).2.2 e hinit last (by simp)
      rw [TotalOrder.order_gt_iff.2 hback] at hlt
      cases hlt
    · rw [List.mem_singleton.1 hlast, order_self] at hlt
      cases hlt
  rw [List.filter_append, List.filter_eq_nil_iff.2 hleft, List.filter_eq_self.2 hkept,
    List.nil_append]

namespace MemoryStore

/-- The entities on a shelf are those that are kept in the partition. -/
theorem IsFiled.mem_shelf_iff {store : MemoryStore} (h : store.IsFiled) {partition : Key.Partition}
    {e : Entity} : e ∈ store.shelf partition ↔ store.Keeps e ∧ e.key.partition = partition := by
  constructor
  · intro hmem
    obtain ⟨ids, hkept⟩ := mem_shelf.1 hmem
    exact ⟨⟨_, hkept⟩, h.partition hmem⟩
  · rintro ⟨⟨address, hkept⟩, rfl⟩
    have hown := Key.address?_fst (h.address hkept)
    exact mem_shelf.2 ⟨address.2, hown ▸ hkept⟩

/-- The entities of a partition without ancestors are in the order of their ids. -/
theorem IsFiled.isListed {store : MemoryStore} (h : store.IsFiled) {ns : Option String}
    {kind : String} (hroots : ∀ e ∈ store.shelf (ns, kind), e.key.ancestors = []) :
    IsListed kind (store.shelf (ns, kind)) := by
  have hids : ∀ e ∈ store.shelf (ns, kind), ∃ id, e.key.id = some id ∧ e.key.ids? = some [id] := by
    intro e hmem
    obtain ⟨ids, hkept⟩ := mem_shelf.1 hmem
    have haddress := h.address hkept
    have hall := Key.ids?_eq e.key
    rw [hroots e hmem] at hall
    cases hid : e.key.id with
    | none =>
      rw [Key.address?, hall, hid] at haddress
      cases haddress
    | some id => exact ⟨id, rfl, by rw [hall, hid]; rfl⟩
  refine ⟨hroots, ?_, ?_, ?_⟩
  · intro e hmem
    exact congrArg Prod.snd (h.partition hmem)
  · intro e hmem
    obtain ⟨id, hid, -⟩ := hids e hmem
    exact ⟨id, hid⟩
  · refine (h.pairwise_shelf (ns, kind)).imp_of_mem ?_
    intro a b ha hb hlt
    obtain ⟨i, hi, hpath⟩ := hids a ha
    obtain ⟨j, hj, hpath'⟩ := hids b hb
    rw [hpath, hpath'] at hlt
    rw [hi, hj]
    rcases Ordering.then_eq_lt.1 hlt with hlt | ⟨-, hnil⟩
    · exact hlt
    · cases hnil

end MemoryStore

/-! ## One page -/

namespace Query

/-- The query says nothing about the entities of a kind but how many to return. -/
structure IsPlain (q : Query) (kind : String) : Prop where
  kind : q.kind = some kind
  clauses : q.clauses = []
  projections : q.projections = []
  orders : q.orders = []
  offset : q.offset = none

/-- Where the loop over the pages is: it has read some entities of the kind, and the others are
still to be read. -/
structure HasRead (q : Query) (kind : String) (after : Option KeyId) (store : MemoryStore)
    (before rest : List Entity) : Prop where
  isUnavailable : store.isUnavailable = false
  shelf : store.shelf (q.ns, kind) = before ++ rest
  listed : IsListed kind (before ++ rest)
  after : after = before.getLast?.bind fun e => e.key.id

variable {q : Query} {kind : String} {n : UInt64} {before rest : List Entity}
  {after : Option KeyId} {store : MemoryStore}

/-- A store that answers gives as many entities for a page as there are behind its id, up to the
size of the page, and is changed in no more than the queries that it remembers. -/
theorem HasRead.runQuery_page (h : q.HasRead kind after store before rest) (hq : q.IsPlain kind)
    (hn : n.toNat ≤ 9223372036854775807) :
    EntityStore.runQuery (q.compiledPage kind n after).prepare store =
      (.ok ((rest.take n.toNat).map .ok),
        { store with
          executed := store.executed ++ [(q.compiledPage kind n after).prepare] }) := by
  have hwritten := CompiledQuery.isWritten_of_compile (compile_page hq.kind hq.clauses n after)
  have hclauses : (pageClauses kind after).all (·.value.isReadable) = true := by
    cases after <;> rfl
  have hreadable : (q.compiledPage kind n after).isReadable = true := by
    show ((pageClauses kind after).all (·.value.isReadable) &&
      CompiledQuery.countIsReadable (some n) && CompiledQuery.countIsReadable q.offset) = true
    rw [hclauses, hq.offset]
    simpa [CompiledQuery.countIsReadable] using hn
  have hanswer := CompiledQuery.runQuery_prepare hwritten h.isUnavailable
  rw [if_pos hreadable] at hanswer
  have hrun : (q.compiledPage kind n after).statement.run (before ++ rest) =
      rest.take n.toNat := by
    rw [Statement.run_plain (n := n) hq.projections hq.orders hq.offset rfl,
      h.listed.filter_isMetBy h.after]
  have hentities : store.shelf ((q.compiledPage kind n after).query.ns,
      (q.compiledPage kind n after).kind) = before ++ rest := h.shelf
  rw [hentities, hrun] at hanswer
  exact Prod.ext hanswer rfl

/-- What is read of a store is read of it after further queries. -/
theorem HasRead.next (h : q.HasRead kind after store before rest) {count : Nat} {last : Entity}
    {id : KeyId} (hlast : (rest.take count).getLast? = some last) (hid : last.key.id = some id)
    (executed : List StoreQuery) :
    q.HasRead kind (some id) { store with executed } (before ++ rest.take count)
      (rest.drop count) := by
  have hall : before ++ rest.take count ++ rest.drop count = before ++ rest := by
    rw [List.append_assoc, List.take_append_drop]
  refine ⟨h.isUnavailable, ?_, ?_, ?_⟩
  · rw [hall]
    exact h.shelf
  · rw [hall]
    exact h.listed
  · rw [List.getLast?_append, hlast, Option.some_or, Option.bind_some, hid]

/-- The entities that the loop reads from some place on are those that are still to be read, in
pages of the given size. -/
theorem ReadsPages.flatten_eq {pages : List (List Entity)} {store' : MemoryStore}
    (h : q.ReadsPages kind n after store pages store') (hq : q.IsPlain kind) (hpos : 0 < n.toNat)
    (hn : n.toNat ≤ 9223372036854775807) (hread : q.HasRead kind after store before rest) :
    pages.flatten = rest ∧ ∀ page ∈ pages, page.length ≤ n.toNat := by
  induction h generalizing before rest with
  | done hcompile hrun =>
    cases hcompile.symm.trans (compile_page hq.kind hq.clauses n _)
    have hpage := congrArg Prod.fst ((hread.runQuery_page hq hn).symm.trans hrun)
    have htake : rest.take n.toNat = [] := by simpa using hpage
    have hrest : rest = [] := (List.take_eq_nil_iff.1 htake).resolve_left (by omega)
    exact ⟨hrest.symm, nofun⟩
  | @next _ store _ _ _ entities _ _ pages hcompile hrun hlast hid _ ih =>
    cases hcompile.symm.trans (compile_page hq.kind hq.clauses n _)
    obtain ⟨hpage, rfl⟩ := Prod.mk.inj ((hread.runQuery_page hq hn).symm.trans hrun)
    have hentities : rest.take n.toNat = entities :=
      List.map_injective_iff.2 (fun _ _ => Except.ok.inj) (Except.ok.inj hpage)
    obtain ⟨hothers, hsizes⟩ := ih (hread.next (hentities ▸ hlast) hid _)
    constructor
    · rw [List.flatten_cons, hothers, ← hentities, List.take_append_drop]
    · intro page hmem
      rcases List.mem_cons.1 hmem with rfl | hmem
      · rw [← hentities]
        exact List.length_take_le ..
      · exact hsizes page hmem

/-- The loop comes to an end: each page leaves fewer entities to read. -/
theorem HasRead.exists_readsPages (h : q.HasRead kind after store before rest)
    (hq : q.IsPlain kind) (hpos : 0 < n.toNat) (hn : n.toNat ≤ 9223372036854775807) :
    ∃ pages store', q.ReadsPages kind n after store pages store' := by
  induction hlength : rest.length using Nat.strong_induction_on
    generalizing before rest after store with
  | _ length ih =>
    have hcompile := compile_page hq.kind hq.clauses n after
    have hrun := h.runQuery_page hq hn
    cases hlast : (rest.take n.toNat).getLast? with
    | none =>
      rw [List.getLast?_eq_none_iff.1 hlast] at hrun
      exact ⟨[], _, .done hcompile hrun⟩
    | some last =>
      have hmem : last ∈ rest := List.mem_of_mem_take (List.mem_of_getLast? hlast)
      obtain ⟨id, hid⟩ := h.listed.identified last (List.mem_append_right _ hmem)
      have hshorter : (rest.drop n.toNat).length < length := by
        have hsome := List.length_pos_of_mem hmem
        rw [List.length_drop]
        omega
      obtain ⟨pages, store', hpages⟩ := ih _ hshorter (h.next hlast hid _) rfl
      exact ⟨_, _, .next hcompile hrun hlast hid hpages⟩

/-- A store that does not answer gives no page. -/
theorem ReadsPages.isUnavailable_eq {pages : List (List Entity)} {store' : MemoryStore}
    (h : q.ReadsPages kind n after store pages store') : store.isUnavailable = false := by
  have hanswers : ∀ {query : StoreQuery} {stream : EntityStream} {next : MemoryStore},
      EntityStore.runQuery query store = (.ok stream, next) → store.isUnavailable = false := by
    intro query stream next hrun
    rw [Bool.eq_false_iff]
    intro hdown
    have hanswer : store.answer query = .ok stream := congrArg Prod.fst hrun
    rw [MemoryStore.answer, if_pos hdown] at hanswer
    cases hanswer
  cases h with
  | done _ hrun => exact hanswers hrun
  | next _ hrun _ _ _ => exact hanswers hrun

end Query

/-! ## The result -/

namespace MemoryStore

/-- The entities of a partition, each once, in the natural order of their ids. -/
structure IsListing (store : MemoryStore) (partition : Key.Partition) (entities : List Entity) :
    Prop where
  mem_iff : ∀ e, e ∈ entities ↔ store.Keeps e ∧ e.key.partition = partition
  nodup : entities.Nodup
  ascending : entities.Pairwise fun a b =>
    ∃ i j, a.key.id = some i ∧ b.key.id = some j ∧ i.Precedes j

theorem IsFiled.isListing {store : MemoryStore} (h : store.IsFiled) {ns : Option String}
    {kind : String} (hlisted : IsListed kind (store.shelf (ns, kind))) :
    store.IsListing (ns, kind) (store.shelf (ns, kind)) := by
  refine ⟨fun e => h.mem_shelf_iff, h.nodup_shelf _, ?_⟩
  refine hlisted.ascending.imp_of_mem ?_
  intro a b ha hb hlt
  obtain ⟨i, hi⟩ := hlisted.identified a ha
  obtain ⟨j, hj⟩ := hlisted.identified b hb
  rw [hi, hj] at hlt
  exact ⟨i, j, hi, hj, KeyId.order_eq_lt_iff.1 hlt⟩

end MemoryStore

/-- Paging by key loses and repeats nothing.  Where the entities of a kind have no ancestors, the
loop over the pages comes to an end if and only if the store answers, and the pages together are
all entities of the kind, each once, in the natural order of their ids. -/
theorem Query.readsPages_lists {q : Query} {kind : String} {n : UInt64} {store : MemoryStore}
    (hreach : store.Reachable) (hq : q.IsPlain kind)
    (hroots : ∀ e, store.Keeps e → e.key.partition = (q.ns, kind) → e.key.ancestors = [])
    (hpos : 1 ≤ n.toNat) (hn : n.toNat ≤ 9223372036854775807) :
    ((∃ pages store', q.ReadsPages kind n none store pages store') ↔
      store.isUnavailable = false) ∧
    ∀ pages store', q.ReadsPages kind n none store pages store' →
      pages.flatten = store.shelf (q.ns, kind) ∧
      store.IsListing (q.ns, kind) pages.flatten ∧
      ∀ page ∈ pages, page.length ≤ n.toNat := by
  have hfiled := hreach.isFiled
  have hlisted : IsListed kind (store.shelf (q.ns, kind)) := hfiled.isListed fun e hmem =>
    have hkept := hfiled.mem_shelf_iff.1 hmem
    hroots e hkept.1 hkept.2
  have hstart : store.isUnavailable = false →
      q.HasRead kind none store [] (store.shelf (q.ns, kind)) := fun hup =>
    ⟨hup, rfl, hlisted, rfl⟩
  constructor
  · constructor
    · rintro ⟨pages, store', hpages⟩
      exact hpages.isUnavailable_eq
    · intro hup
      exact (hstart hup).exists_readsPages hq hpos hn
  · intro pages store' hpages
    obtain ⟨hflatten, hsizes⟩ := hpages.flatten_eq hq hpos hn (hstart hpages.isUnavailable_eq)
    rw [hflatten]
    exact ⟨rfl, hfiled.isListing hlisted, hsizes⟩

/-- A store of tags: two with names, of which one looks like a number, and two with numbers, of
which one is negative. -/
def MemoryStore.tags : MemoryStore :=
  run [.insert ⟨.root "Tag" (.name "b"), [], []⟩, .insert ⟨.root "Tag" (.number 3), [], []⟩,
    .insert ⟨.root "Tag" (.name "10"), [], []⟩, .insert ⟨.root "Tag" (.number (-1)), [], []⟩] .empty

/-- The tags in pages of two: numbers by size, then names. -/
theorem Query.readsPages_lists_tags :
    MemoryStore.tags.Reachable ∧ (Query.empty.ofKind "Tag").IsPlain "Tag" ∧
      (∀ e, MemoryStore.tags.Keeps e → e.key.partition = (none, "Tag") → e.key.ancestors = []) ∧
      ∃ pages store',
        (Query.empty.ofKind "Tag").ReadsPages "Tag" 2 none MemoryStore.tags pages store' ∧
        pages.flatten.map (fun e => e.key.id) =
          [some (.number (-1)), some (.number 3), some (.name "10"), some (.name "b")] ∧
        ∀ page ∈ pages, page.length ≤ 2 := by
  have hreach : MemoryStore.tags.Reachable := ⟨_, rfl⟩
  have hplain : (Query.empty.ofKind "Tag").IsPlain "Tag" := ⟨rfl, rfl, rfl, rfl, rfl⟩
  have hroots : ∀ e, MemoryStore.tags.Keeps e → e.key.partition = (none, "Tag") →
      e.key.ancestors = [] := by
    intro e hkeeps hpartition
    have hmem := hreach.isFiled.mem_shelf_iff.2 ⟨hkeeps, hpartition⟩
    exact (show ∀ e ∈ MemoryStore.tags.shelf (none, "Tag"), e.key.ancestors = [] by decide) e hmem
  obtain ⟨hends, hall⟩ := readsPages_lists (n := 2) hreach hplain hroots (by decide) (by decide)
  obtain ⟨pages, store', hpages⟩ := hends.2 rfl
  obtain ⟨hflatten, -, hsizes⟩ := hall pages store' hpages
  refine ⟨hreach, hplain, hroots, pages, store', hpages, ?_, hsizes⟩
  rw [hflatten]
  rfl

end EntityQuery
