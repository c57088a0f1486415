import EntityQuery.Proofs.Session.Insertions
import EntityQuery.Store.Scripted

/-!
# Looking up an id that a store gave out

An id goes into a look-up as a filter value, and the look-up takes the id out of that value
again.  A number comes out as it is.  A name comes out as a number if it reads as one, so that a
store that gives out such names is asked for another entity.

* Text.  `Gql.LooksUp` is that query text asks for one key and nothing else.
  `Query.looksUp_compiledLookup_iff` says for which key the look-up asks.
* The result.  `Query.find_of_allocated_id`, about every store.
-/

namespace EntityQuery

open EntityQuery.Text

/-! ## Text -/

/-- Query text that asks for the entities of a kind with one condition: that their key is the one
of the kind and the id, without ancestors. -/
def Gql.LooksUp (gql kind : String) (id : KeyId) : Prop :=
  ∃ s, Gql.parse gql = .ok s ∧ s.kind = kind ∧
    s.groups = [[⟨keyField, .equal, .key [(kind, id)]⟩]]

theorem Gql.looksUp_iff_toOption {gql kind : String} {id : KeyId} :
    LooksUp gql kind id ↔ ∃ s, (parse gql).toOption = some s ∧ s.kind = kind ∧
      s.groups = [[⟨keyField, .equal, .key [(kind, id)]⟩]] := by
  rw [LooksUp]
  cases parse gql <;> simp [Except.toOption]

theorem Gql.LooksUp.id_eq {gql kind : String} {id other : KeyId} (h : LooksUp gql kind id)
    (hother : LooksUp gql kind other) : id = other := by
  obtain ⟨s, hparse, -, hgroups⟩ := h
  obtain ⟨s', hparse', -, hgroups'⟩ := hother
  rw [hparse] at hparse'
  cases hparse'
  rw [hgroups] at hgroups'
  cases hgroups'
  rfl

namespace Query

variable {q : Query} {kind : String} {columns : List String}

/-- A query without clauses looks an id up by the condition on the key alone. -/
theorem compile_lookup_alone (hkind : q.kind = some kind) (hclauses : q.clauses = [])
    (id : FilterValue) (columns : List String) :
    (q.lookup id columns).compile = .ok (q.compiledLookup kind [] id columns) :=
  compile_lookup_iff.2 ⟨kind, [], hkind, by rw [hclauses]; rfl, rfl⟩

/-- The look-up of an id asks for the key of the id that comes out of the filter value. -/
theorem groups_compiledLookup_alone (q : Query) (kind : String) (given : KeyId)
    (columns : List String) :
    (q.compiledLookup kind [] (.ofId given) columns).statement.groups =
      [[⟨keyField, .equal, .key [(kind, KeyId.ofJson given.toJson)]⟩]] := by
  have hop : (Clause.onKey ⟨kind, .ofJson given.toJson⟩).op = .equal :=
    (Clause.isWritten_of_operator (show "=" = Operator.text .equal by decide)).1
  show [[(⟨keyField, (Clause.onKey ⟨kind, .ofJson given.toJson⟩).op, _⟩ : Condition)]] = _
  rw [hop]
  rfl

/-- The text of a look-up asks for that id if the query has no clauses.  It cannot be read if the
offset is too large. -/
theorem looksUp_compiledLookup_iff (hkind : q.kind = some kind) (hclauses : q.clauses = [])
    {given id : KeyId} :
    Gql.LooksUp (q.compiledLookup kind [] (.ofId given) columns).gql kind id ↔
      (∀ n ∈ q.offset, n.toNat ≤ 9223372036854775807) ∧ KeyId.ofJson given.toJson = id := by
  have hcompile := compile_lookup_alone hkind hclauses (.ofId given) columns
  have hparse := CompiledQuery.toOption_parse_gql (CompiledQuery.isWritten_of_compile hcompile)
  have hreadable : (q.compiledLookup kind [] (.ofId given) columns).isReadable =
      CompiledQuery.countIsReadable q.offset := rfl
  have hgroups := groups_compiledLookup_alone q kind given columns
  have hoffset : CompiledQuery.countIsReadable q.offset = true ↔
      ∀ n ∈ q.offset, n.toNat ≤ 9223372036854775807 := by
    cases q.offset with
    | none => simp [CompiledQuery.countIsReadable]
    | some n => simp [CompiledQuery.countIsReadable]
  rw [Gql.looksUp_iff_toOption, hparse, hreadable, ← hoffset]
  by_cases hcount : CompiledQuery.countIsReadable q.offset = true
  · rw [if_pos hcount]
    constructor
    · rintro ⟨s, hs, -, hsought⟩
      cases hs
      rw [hgroups] at hsought
      cases hsought
      exact ⟨hcount, rfl⟩
    · rintro ⟨-, rfl⟩
      exact ⟨_, rfl, rfl, hgroups⟩
  · rw [if_neg hcount]
    constructor
    · rintro ⟨s, hs, -⟩
      cases hs
    · rintro ⟨hread, -⟩
      exact absurd hread hcount

/-! ## The result -/

variable {σ : Type} [EntityStore σ]

/-- Whatever store gives out an id and keeps an entity under it: the id is returned, and to look
it up later submits one query.  This asks for the key with that id if and only if the id is no name
that reads as an integer; if it is, the query asks for the key with the integer.  An offset beyond
the signed integers of 64 bits makes the query one that cannot be read. -/
theorem find_of_allocated_id (hkind : q.kind = some kind) (hclauses : q.clauses = []) {id : KeyId}
    {properties : Properties} {s : Session (Recorded σ)} {kept : Key} {store₁ store₂ : σ}
    (hallocate : EntityStore.allocate ((Key.incomplete kind).withNamespace q.ns) s.store.store =
      (.ok ((Key.root kind id).withNamespace q.ns), store₁))
    (hinsert : EntityStore.insert
        (Entity.create ((Key.root kind id).withNamespace q.ns) properties q.excluded) store₁ =
      (.ok kept, store₂)) :
    (∃ s', q.insertGetId properties s = (.ok id, s')) ∧
    ∀ (later : Session (Recorded σ)) (columns : List String), ∃ request answer,
      (q.find (.ofId id) columns later).2.store.calls =
        later.store.calls ++ [.query request answer] ∧
      request.ns = q.ns ∧
      (Gql.LooksUp request.gql kind id ↔
        (∀ n ∈ q.offset, n.toNat ≤ 9223372036854775807) ∧
          ∀ name, id = .name name → readInt64? (trimChars name.toList) = none) ∧
      ∀ name n, id = .name name → readInt64? (trimChars name.toList) = some n →
        (∀ n ∈ q.offset, n.toNat ≤ 9223372036854775807) →
          Gql.LooksUp request.gql kind (.number n) := by
  constructor
  · have hid : ((Key.root kind id).withNamespace q.ns).id = some id := rfl
    obtain ⟨journal, hreturned⟩ := Session.insertGetId_eq_ok_of_store hid
      (Recorded.allocate_eq hallocate) (Recorded.insert_eq hinsert)
    rw [insertGetId, hkind]
    exact ⟨_, hreturned⟩
  · intro later columns
    have hcompile := compile_lookup_alone hkind hclauses (.ofId id) columns
    refine ⟨_, _, (congrArg Recorded.calls (find_store hcompile later)).trans
      (Recorded.runQuery_calls ..), rfl, ?_, ?_⟩
    · exact (looksUp_compiledLookup_iff hkind hclauses).trans
        (and_congr_right fun _ => KeyId.ofJson_toJson_eq_iff)
    · rintro name n rfl hread hoffset
      refine (looksUp_compiledLookup_iff hkind hclauses).2 ⟨hoffset, ?_⟩
      rw [KeyId.ofJson_toJson_name, hread]
      rfl

end Query

/-- A watched store that gives out the name `7` for every key, asked nothing so far. -/
def Session.ofNaming : Session (Recorded ScriptedStore) :=
  ⟨⟨.ofScript ⟨.ok (some (.name "7")), none, none, []⟩, []⟩, .empty .info⟩

/-- The store that gives out the name `7` is asked for the key with the number. -/
theorem Query.find_of_allocated_id_digits :
    ∃ s', (Query.empty.ofKind "Widget").insertGetId [] Session.ofNaming =
        (.ok (.name "7"), s') ∧
      ∃ request answer,
        ((Query.empty.ofKind "Widget").find (.ofId (.name "7")) [] s').2.store.calls =
          s'.store.calls ++ [.query request answer] ∧
        ¬Gql.LooksUp request.gql "Widget" (.name "7") ∧
        Gql.LooksUp request.gql "Widget" (.number 7) := by
  have halone : (Query.empty.ofKind "Widget").clauses = [] := rfl
  obtain ⟨⟨s', hreturned⟩, hfind⟩ :
      (∃ s', (Query.empty.ofKind "Widget").insertGetId [] Session.ofNaming =
        (.ok (.name "7"), s')) ∧ _ :=
    find_of_allocated_id rfl halone rfl rfl
  obtain ⟨request, answer, hcalls, -, -, hnumber⟩ := hfind s' []
  have hlooksUp : Gql.LooksUp request.gql "Widget" (.number 7) :=
    hnumber "7" 7 rfl (by decide) (by simp [Query.empty, Query.ofKind])
  refine ⟨s', hreturned, request, answer, hcalls, ?_, hlooksUp⟩
  intro hname
  cases hname.id_eq hlooksUp

end EntityQuery
