import EntityQuery.Proofs.Session.Operations
import EntityQuery.Proofs.Session.ReadYourWrites
import EntityQuery.Proofs.Store.Commutation

/-!
# Inserting rows

Rows are inserted one after the other, and the first failure ends it.

* Any store.  `Query.KeepsRows` are the calls by which rows are kept, and `Query.RefusesRow` those
  by which one is refused.  `InsertsAll.keeps_or_refuses` is that nothing else can happen.
* The store in memory.  `MemoryStore.sequence_insertNext` and its like say what one insertion
  changes.  `KeyId.following` are the numbers that come next, and `Query.insert_eq_insertRows` is
  the induction over the rows.
* The result.  `Query.insert_keeps_prefix` puts both together.
-/

namespace EntityQuery

/-! ## Any store -/

namespace Query

/-- The calls by which rows are kept under ids, row by row: an id is asked for, and the row is
inserted under the key that came. -/
inductive KeepsRows (q : Query) (kind : String) :
    List Properties → List KeyId → List StoreCall → Prop
  | nil : KeepsRows q kind [] [] []
  | cons {row : Properties} {rows : List Properties} {key kept : Key} {id : KeyId}
      {ids : List KeyId} {calls : List StoreCall} (hid : key.id = some id)
      (hrows : KeepsRows q kind rows ids calls) :
      KeepsRows q kind (row :: rows) (id :: ids)
        (.allocate ⟨q.ns, [], ⟨kind, none⟩⟩ (.ok key) ::
          .insert (.create key row q.excluded) (.ok kept) :: calls)

/-- The calls by which a row is refused, with the failure: there is no id, or a key without one,
or the row is not inserted under the key that came. -/
inductive RefusesRow (q : Query) (kind : String) (row : Properties) :
    QueryError → List StoreCall → Prop
  | refused (e : StoreError) :
      RefusesRow q kind row (.storeWrite e) [.allocate ⟨q.ns, [], ⟨kind, none⟩⟩ (.error e)]
  | incomplete {key : Key} (hid : key.id = none) :
      RefusesRow q kind row (.storeWrite (.incompleteKey key.text))
        [.allocate ⟨q.ns, [], ⟨kind, none⟩⟩ (.ok key)]
  | failed {key : Key} {id : KeyId} (hid : key.id = some id) (e : StoreError) :
      RefusesRow q kind row (.storeWrite e)
        [.allocate ⟨q.ns, [], ⟨kind, none⟩⟩ (.ok key),
          .insert (.create key row q.excluded) (.error e)]

variable {q : Query} {kind : String} {rows : List Properties} {ids : List KeyId}
  {calls : List StoreCall}

theorem KeepsRows.length_eq (h : q.KeepsRows kind rows ids calls) : ids.length = rows.length := by
  induction h with
  | nil => rfl
  | cons _ _ ih => exact congrArg Nat.succ ih

end Query

section

variable {σ : Type} [EntityStore σ] {q : Query} {kind : String} {rows : List Properties}
  {store store' : σ} {answer : Except QueryError (List KeyId)} {calls : List StoreCall}

/-- Rows are kept up to the first that is refused, and nothing is asked for those behind it. -/
theorem InsertsAll.keeps_or_refuses
    (h : InsertsAll ((Key.incomplete kind).withNamespace q.ns)
      (fun properties key => .create key properties q.excluded) rows store answer store' calls) :
    (∃ ids, answer = .ok ids ∧ q.KeepsRows kind rows ids calls) ∨
      ∃ before row after ids e earlier last, rows = before ++ row :: after ∧ answer = .error e ∧
        q.KeepsRows kind before ids earlier ∧ q.RefusesRow kind row e last ∧
        calls = earlier ++ last := by
  induction h with
  | nil => exact .inl ⟨[], rfl, .nil⟩
  | @failed row rows _ _ e calls h =>
    have hrefused : q.RefusesRow kind row e calls := by
      cases h with
      | refused => exact .refused _
      | incomplete _ hid => exact .incomplete hid
      | failed _ hid => exact .failed hid _
    exact .inr ⟨[], row, rows, [], e, [], calls, rfl, rfl, .nil, hrefused, rfl⟩
  | @cons row _ _ _ _ id _ _ _ h _ ih =>
    cases h with
    | kept _ hid =>
      rcases ih with ⟨ids, rfl, hkept⟩ |
        ⟨before, other, after, ids, e, earlier, last, rfl, rfl, hkept, hrefused, rfl⟩
      · exact .inl ⟨id :: ids, rfl, .cons hid hkept⟩
      · exact .inr ⟨row :: before, other, after, id :: ids, e, _, last, rfl, rfl,
          .cons hid hkept, hrefused, rfl⟩

end

/-! ## The store in memory -/

namespace MemoryStore

variable {store : MemoryStore} {ns : Option String} {kind : String}

theorem isUnavailable_insertNext (store : MemoryStore) (ns : Option String) (kind : String)
    (properties : Properties) (excluded : List String) :
    (store.insertNext ns kind properties excluded).isUnavailable = store.isUnavailable := by
  show ((store.allocate _).2.insert _).2.isUnavailable = _
  rw [isUnavailable_insert]
  rcases allocate_cases ((Key.incomplete kind).withNamespace ns) store with
    ⟨h, -⟩ | ⟨h, -⟩ | ⟨h, -⟩ <;> rw [h]

theorem get?_insertNext {key : Key} {e : Entity} (h : store.get? key = some e) (ns : Option String)
    (kind : String) (properties : Properties) (excluded : List String) :
    (store.insertNext ns kind properties excluded).get? key = some e := by
  obtain ⟨address, haddress, hkept⟩ := Option.bind_eq_some_iff.1 h
  rw [get?, haddress]
  exact entities_get?_run hkept _

/-- An insertion moves the sequence of its partition by one, and no other. -/
theorem sequence_insertNext_eq (hup : store.isUnavailable = false) (properties : Properties)
    (excluded : List String) (partition : Key.Partition) :
    (store.insertNext ns kind properties excluded).sequence partition =
      if partition = (ns, kind) then store.sequence (ns, kind) + 1
      else store.sequence partition := by
  have hallocate := allocate_of_incomplete ((Key.incomplete kind).withNamespace ns) hup rfl
  have hallocated :
      (store.allocate ((Key.incomplete kind).withNamespace ns)).2.sequence partition =
        if partition = (ns, kind) then store.sequence (ns, kind) + 1
        else store.sequence partition := by
    rw [hallocate]
    exact sequence_insert rfl partition
  have hreach : reach (store.sequence (ns, kind) + 1) (store.nextKey ns kind) =
      store.sequence (ns, kind) + 1 := by
    rw [reach_of_number rfl]
    exact max_eq_left_of_not_lt fun hlt => Int64.lt_irrefl hlt
  have hup₁ :
      (store.allocate ((Key.incomplete kind).withNamespace ns)).2.isUnavailable = false := by
    rw [hallocate]
    exact hup
  have hadvanced := sequences_insert hup₁ (.create (store.nextKey ns kind) properties excluded)
  rw [if_neg (by exact nofun)] at hadvanced
  show ((store.allocate _).2.insert _).2.sequence _ = _
  rw [sequence_advance hadvanced, hallocated]
  show (if partition = (ns, kind) then reach _ (store.nextKey ns kind) else _) = _
  by_cases hpartition : partition = (ns, kind)
  · rw [if_pos hpartition, if_pos hpartition, hreach]
  · rw [if_neg hpartition]

theorem sequence_insertNext (hup : store.isUnavailable = false) (properties : Properties)
    (excluded : List String) :
    (store.insertNext ns kind properties excluded).sequence (ns, kind) =
      store.sequence (ns, kind) + 1 := by
  rw [sequence_insertNext_eq hup, if_pos rfl]

theorem IsAhead.insertNext (h : store.IsAhead (ns, kind))
    (hsmall : (store.sequence (ns, kind)).toInt < 9223372036854775807) (properties : Properties)
    (excluded : List String) :
    (store.insertNext ns kind properties excluded).IsAhead (ns, kind) :=
  (h.step (not_overflows_of_lt hsmall _)).step (not_overflows_insert _ _ _)

/-- The store after rows were inserted under the next numbers of a partition. -/
def insertRows (store : MemoryStore) (ns : Option String) (kind : String) (rows : List Properties)
    (excluded : List String) : MemoryStore :=
  rows.foldl (fun store row => store.insertNext ns kind row excluded) store

theorem get?_insertRows {key : Key} {e : Entity} (h : store.get? key = some e) (ns : Option String)
    (kind : String) (rows : List Properties) (excluded : List String) :
    (store.insertRows ns kind rows excluded).get? key = some e := by
  induction rows generalizing store with
  | nil => exact h
  | cons row rows ih => exact ih (get?_insertNext h ns kind row excluded)

end MemoryStore

/-- The key of one element with a number. -/
def Key.numbered (ns : Option String) (kind : String) (n : Int64) : Key :=
  ⟨ns, [], ⟨kind, some (.number n)⟩⟩

/-- The numbers that insertions are given behind the last one, in order. -/
def KeyId.following (last : Int64) (count : Nat) : List KeyId :=
  (List.range count).map fun i => .number (last + 1 + Int64.ofNat i)

theorem add_one_add_ofNat (last : Int64) (i : Nat) :
    last + 1 + Int64.ofNat i = last + Int64.ofNat (i + 1) := by
  rw [Int64.ofNat_add, Int64.add_comm (Int64.ofNat i), ← Int64.add_assoc]
  rfl

theorem KeyId.following_succ (last : Int64) (count : Nat) :
    following last (count + 1) = .number (last + 1) :: following (last + 1) count := by
  have hfirst : last + 1 + Int64.ofNat 0 = last + 1 := Int64.add_zero (last + 1)
  rw [following, List.range_succ_eq_map, List.map_cons, hfirst, List.map_map, following]
  refine congrArg _ (List.map_congr_left fun i _ => congrArg KeyId.number ?_)
  exact (add_one_add_ofNat (last + 1) i).symm

/-- Rows that are inserted into a store that answers get the next numbers of the partition in
order, and each row is kept under its number. -/
theorem Query.insert_eq_insertRows {q : Query} {kind : String} (hkind : q.kind = some kind)
    (rows : List Properties) {s : Session MemoryStore} (hfiled : s.store.IsFiled)
    (hahead : s.store.IsAhead (q.ns, kind)) (hup : s.store.isUnavailable = false)
    (hsmall : (s.store.sequence (q.ns, kind)).toInt + rows.length ≤ 9223372036854775807) :
    (∃ journal, q.insert rows s =
        (.ok (KeyId.following (s.store.sequence (q.ns, kind)) rows.length),
          ⟨s.store.insertRows q.ns kind rows q.excluded, journal⟩)) ∧
      ∀ (i : Nat) (hi : i < rows.length),
        let key := Key.numbered q.ns kind (s.store.sequence (q.ns, kind) + 1 + Int64.ofNat i)
        (s.store.insertRows q.ns kind rows q.excluded).get? key =
          some (.create key rows[i] q.excluded) := by
  induction rows generalizing s with
  | nil => exact ⟨⟨s.journal, rfl⟩, fun i hi => absurd hi (Nat.not_lt_zero i)⟩
  | cons row rows ih =>
    rw [List.length_cons] at hsmall
    have hnext : (s.store.sequence (q.ns, kind)).toInt < 9223372036854775807 := by omega
    obtain ⟨⟨journal, hfirst⟩, hkept⟩ :=
      Session.insertGetId_eq_insertNext row q.excluded hfiled hahead hup hnext
    have hsequence : (s.store.insertNext q.ns kind row q.excluded).sequence (q.ns, kind) =
        s.store.sequence (q.ns, kind) + 1 := MemoryStore.sequence_insertNext hup row q.excluded
    obtain ⟨⟨journal', hrest⟩, hrows⟩ := ih
      (s := ⟨s.store.insertNext q.ns kind row q.excluded, journal⟩) (hfiled.run _)
      (hahead.insertNext hnext row q.excluded)
      ((MemoryStore.isUnavailable_insertNext ..).trans hup)
      (by rw [hsequence, MemoryStore.toInt_succ hnext]; omega)
    rw [hsequence] at hrest hrows
    refine ⟨⟨journal', ?_⟩, ?_⟩
    · rw [List.length_cons, KeyId.following_succ]
      simp only [Query.insert, Query.insertGetId, hkind, hfirst, hrest]
      rfl
    · rintro (_ | i) hi
      · have hfirst : s.store.sequence (q.ns, kind) + 1 + Int64.ofNat 0 =
            s.store.sequence (q.ns, kind) + 1 := Int64.add_zero _
        rw [hfirst]
        exact MemoryStore.get?_insertRows hkept ..
      · have hrow := hrows i (Nat.lt_of_succ_lt_succ hi)
        rw [add_one_add_ofNat (s.store.sequence (q.ns, kind) + 1)] at hrow
        exact hrow

/-- Rows that are inserted into a store that answers get the next numbers of the partition in
order.  What was kept before is still kept, and each row is kept under its number. -/
theorem Query.insert_eq_numbers {q : Query} {kind : String} (hkind : q.kind = some kind)
    (rows : List Properties) {s : Session MemoryStore} (hfiled : s.store.IsFiled)
    (hahead : s.store.IsAhead (q.ns, kind)) (hup : s.store.isUnavailable = false)
    (hsmall : (s.store.sequence (q.ns, kind)).toInt + rows.length ≤ 9223372036854775807) :
    ∃ s', q.insert rows s =
        (.ok (KeyId.following (s.store.sequence (q.ns, kind)) rows.length), s') ∧
      (∀ key e, s.store.get? key = some e → s'.store.get? key = some e) ∧
      ∀ (i : Nat) (hi : i < rows.length),
        let key := Key.numbered q.ns kind (s.store.sequence (q.ns, kind) + 1 + Int64.ofNat i)
        s'.store.get? key = some (.create key rows[i] q.excluded) := by
  obtain ⟨⟨journal, hinsert⟩, hrows⟩ := insert_eq_insertRows hkind rows hfiled hahead hup hsmall
  exact ⟨_, hinsert, fun key e h => MemoryStore.get?_insertRows h .., hrows⟩

/-! ## The result -/

/-- What the insertion of rows asks of a watched store, and how that goes with its answer. -/
structure Query.InsertsPrefix {σ : Type} [EntityStore σ] (q : Query) (kind : String)
    (rows : List Properties) (s : Session (Recorded σ)) (calls : List StoreCall) : Prop where
  calls_eq : (q.insert rows s).2.store.calls = s.store.calls ++ calls
  /-- All rows are kept, or those before one that is refused, and nothing is asked for the rows
  behind it. -/
  outcome :
    (∃ ids, (q.insert rows s).1 = .ok ids ∧ ids.length = rows.length ∧
        q.KeepsRows kind rows ids calls) ∨
      ∃ before row after ids e earlier last, rows = before ++ row :: after ∧
        (q.insert rows s).1 = .error e ∧ q.KeepsRows kind before ids earlier ∧
        q.RefusesRow kind row e last ∧ calls = earlier ++ last
  /-- To be watched changes nothing for a store. -/
  unwatched : (q.insert rows s).1 = (q.insert rows s.unwatched).1 ∧
    (q.insert rows s).2.unwatched = (q.insert rows s.unwatched).2

theorem Query.exists_insertsPrefix {σ : Type} [EntityStore σ] {q : Query} {kind : String}
    (hkind : q.kind = some kind) (rows : List Properties) (s : Session (Recorded σ)) :
    ∃ calls, q.InsertsPrefix kind rows s calls := by
  obtain ⟨answer, store, calls, h⟩ := InsertsAll.exists_insertsAll
    ((Key.incomplete kind).withNamespace q.ns)
    (fun properties key => .create key properties q.excluded) rows s.store.store
  have hwatched : q.insert rows s = (answer, ⟨⟨store, s.store.calls ++ calls⟩,
      s.journal.recordAll (calls.filterMap (StoreCall.event? kind))⟩) :=
    (h.watched s.store.calls).insert_eq hkind s.journal
  have hunwatched : q.insert rows s.unwatched = (answer, ⟨store,
      s.journal.recordAll (calls.filterMap (StoreCall.event? kind))⟩) :=
    h.insert_eq hkind s.journal
  refine ⟨calls, ?_, ?_, ?_⟩
  · rw [hwatched]
  · rw [hwatched]
    rcases h.keeps_or_refuses with ⟨ids, hids, hkept⟩ | hrefused
    · exact .inl ⟨ids, hids, hkept.length_eq, hkept⟩
    · exact .inr hrefused
  · rw [hwatched, hunwatched]
    exact ⟨rfl, rfl⟩

/-- The insertion of rows keeps all of them, or those before one that the store refuses, in order.
A store in memory that answers and has numbers left refuses none, gives them the next numbers of
their partition and keeps all that it kept before. -/
theorem Query.insert_keeps_prefix {q : Query} {kind : String} (hkind : q.kind = some kind)
    (rows : List Properties) :
    (∀ (σ : Type) [EntityStore σ] (s : Session (Recorded σ)),
        ∃ calls, q.InsertsPrefix kind rows s calls) ∧
      ∀ s : Session MemoryStore, s.store.ReachableWithin (q.ns, kind) →
        s.store.isUnavailable = false →
        (s.store.sequence (q.ns, kind)).toInt + rows.length ≤ 9223372036854775807 →
        ∃ s', q.insert rows s =
            (.ok ((List.range rows.length).map fun i =>
              .number (s.store.sequence (q.ns, kind) + 1 + Int64.ofNat i)), s') ∧
          (∀ key e, s.store.get? key = some e → s'.store.get? key = some e) ∧
          ∀ (i : Nat) (hi : i < rows.length),
            let key := Key.numbered q.ns kind (s.store.sequence (q.ns, kind) + 1 + Int64.ofNat i)
            s'.store.get? key = some (.create key rows[i] q.excluded) :=
  ⟨fun _ _ => exists_insertsPrefix hkind rows,
    fun _ hreach => insert_eq_numbers hkind rows hreach.reachable.isFiled hreach.isAhead⟩

/-- Two widgets behind two others, of which the first is still there. -/
theorem Query.insert_keeps_prefix_widgets :
    (empty.ofKind "Widget").kind = some "Widget" ∧
      MemoryStore.twoWidgets.ReachableWithin (none, "Widget") ∧
      MemoryStore.twoWidgets.isUnavailable = false ∧
      (MemoryStore.twoWidgets.sequence (none, "Widget")).toInt + 2 ≤ 9223372036854775807 ∧
      ∃ s', (empty.ofKind "Widget").insert [[], [("c", .ofInt64 3)]]
            ⟨MemoryStore.twoWidgets, .empty .info⟩ =
          (.ok [.number 3, .number 4], s') ∧
        s'.store.get? (.numbered none "Widget" 1) =
          some ⟨.numbered none "Widget" 1, [("a", .ofInt64 1)], []⟩ ∧
        s'.store.get? (.numbered none "Widget" 4) =
          some ⟨.numbered none "Widget" 4, [("c", .ofInt64 3)], []⟩ := by
  have hreach := MemoryStore.reachableWithin_twoWidgets (none, "Widget")
  have hsmall :
      (MemoryStore.twoWidgets.sequence (none, "Widget")).toInt + 2 ≤ 9223372036854775807 := by
    decide
  obtain ⟨-, hmemory⟩ := insert_keeps_prefix (q := empty.ofKind "Widget") rfl
    [[], [("c", .ofInt64 3)]]
  obtain ⟨s', hinsert, hstays, hrows⟩ :=
    hmemory ⟨MemoryStore.twoWidgets, .empty .info⟩ hreach rfl hsmall
  exact ⟨rfl, hreach, rfl, hsmall, s', hinsert, hstays _ _ rfl, hrows 1 (by decide)⟩

end EntityQuery
