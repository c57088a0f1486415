import EntityQuery.Proofs.Session.Answers
import EntityQuery.Request.Basic
import Mathlib.Data.List.SplitBy

/-!
# Looking entities up

A look-up by id is one more clause behind those of the query, joined to them by `AND`.  It
is a condition of the last group only.

* Groups.  `Clause.groups_concat` puts a clause into the last group.
* Entities.  `Clause.holds_onKey` says when the condition on the key holds, and
  `Query.mem_found` which entities a look-up finds.
* The result.  `Query.find_answers_by_groups` says what a look-up answers, and when it
  can answer with no entity but the one of the id; a request to find an entity answers the
  same.
-/

namespace EntityQuery

/-! ## Groups -/

namespace Clause

/-- The groups that are closed by an `OR` behind them. -/
def earlierGroups (clauses : List Clause) : List (List Clause) := (groups clauses).dropLast

/-- The clauses since the last `OR`. -/
def lastGroup (clauses : List Clause) : List Clause := (groups clauses).getLast?.getD []

/-- A clause that is joined by `AND` goes into the last group. -/
theorem groups_concat {last : Clause} (h : last.connector = .and) (clauses : List Clause) :
    groups (clauses ++ [last]) = earlierGroups clauses ++ [lastGroup clauses ++ [last]] := by
  induction clauses with
  | nil => rfl
  | cons first clauses ih =>
    cases clauses with
    | nil =>
      obtain ⟨group, more, hgroups, hfirst⟩ := groups_and first h []
      cases hgroups
      exact hfirst
    | cons second rest =>
      rw [List.cons_append] at ih ⊢
      cases hconnector : second.connector with
      | or =>
        have hnonempty : groups (second :: rest) ≠ [] := List.splitBy_ne_nil.2 (List.cons_ne_nil _ _)
        rw [List.cons_append, groups_or first hconnector, ih, earlierGroups, lastGroup,
          earlierGroups, lastGroup, groups_or first hconnector,
          List.dropLast_cons_of_ne_nil hnonempty, List.getLast?_cons_of_ne_nil hnonempty]
        rfl
      | and =>
        obtain ⟨group, more, hgroups, hfirst⟩ := groups_and first hconnector rest
        obtain ⟨group', more', hgroups', hfirst'⟩ := groups_and first hconnector (rest ++ [last])
        rw [List.cons_append, hfirst', earlierGroups, lastGroup, hfirst]
        rw [hgroups', earlierGroups, lastGroup, hgroups] at ih
        cases more with
        | nil =>
          cases ih
          rfl
        | cons next more =>
          cases ih
          rfl

/-- Clauses that are all joined by `AND` are one group. -/
theorem earlierGroups_eq_nil {clauses : List Clause}
    (h : ∀ clause ∈ clauses.tail, clause.connector = .and) : earlierGroups clauses = [] := by
  cases clauses with
  | nil => rfl
  | cons first rest =>
    have hone : groups (first :: rest) = [first :: rest] := by
      induction rest generalizing first with
      | nil => rfl
      | cons second rest ih =>
        obtain ⟨group, more, hgroups, hfirst⟩ := groups_and first (h second List.mem_cons_self) rest
        rw [ih second fun clause hmem => h clause (List.mem_cons_of_mem _ hmem)] at hgroups
        cases hgroups
        exact hfirst
    rw [earlierGroups, hone]
    rfl

/-- Compiling keeps how clauses are joined. -/
theorem connector_of_compileAll {kind : String} {clauses compiled : List Clause}
    (h : compileAll kind clauses = .ok compiled) :
    compiled.map connector = clauses.map connector := by
  have hall := compileAll_eq_ok_iff.1 h
  clear h
  induction hall with
  | nil => rfl
  | cons hfirst _ ih => rw [List.map_cons, List.map_cons, hfirst.connector, ih]

theorem and_of_compileAll {kind : String} {clauses compiled : List Clause}
    (h : compileAll kind clauses = .ok compiled)
    (hand : ∀ clause ∈ clauses.tail, clause.connector = .and) :
    ∀ clause ∈ compiled.tail, clause.connector = .and := by
  intro clause hmem
  have hconnector : clause.connector ∈ clauses.tail.map connector := by
    rw [List.map_tail, ← connector_of_compileAll h, ← List.map_tail]
    exact List.mem_map_of_mem hmem
  obtain ⟨own, hown, heq⟩ := List.mem_map.1 hconnector
  rw [← heq, hand own hown]

/-! ## Entities -/

/-- A condition on the key compares it with a path. -/
theorem holds_key (op : Operator) (path : List (String × KeyId)) (e : Entity) :
    (⟨keyField, op, .key path⟩ : Condition).holds e =
      ((e.key.orderPath? path).map op.holds).getD false := by
  rw [Condition.holds, if_pos rfl]
  simp only
  cases e.key.orderPath? path <;> rfl

/-- The condition on the key holds of the entity without ancestors that the literal names. -/
theorem holds_onKey {literal : KeyLiteral} {e : Entity} :
    (onKey literal).condition.holds e = true ↔
      e.key.ancestors = [] ∧ literal.addresses e.key = true := by
  have hop : (onKey literal).op = .equal :=
    (isWritten_of_operator (show "=" = Operator.text .equal by decide)).1
  have horder : e.key.orderPath? [(literal.kind, literal.id)] =
      if e.key.ancestors = [] ∧ e.key.kind = literal.kind then
        e.key.id.map fun own => TotalOrder.order own literal.id
      else none := rfl
  have hcondition : (onKey literal).condition =
      ⟨keyField, (onKey literal).op, .key [(literal.kind, literal.id)]⟩ := rfl
  rw [hcondition, holds_key, hop, horder]
  by_cases hpath : e.key.ancestors = [] ∧ e.key.kind = literal.kind
  · rw [if_pos hpath]
    cases hid : e.key.id with
    | none => simp [KeyLiteral.addresses, hid]
    | some own =>
      simp only [Option.map_some, Option.getD_some, Operator.holds, beq_iff_eq,
        TotalOrder.order_eq_iff, KeyLiteral.addresses, hid, Bool.and_eq_true, Option.some.injEq]
      exact ⟨fun h => ⟨hpath.1, hpath.2, h⟩, fun h => h.2.2⟩
  · rw [if_neg hpath]
    simp only [Option.map_none, Option.getD_none, KeyLiteral.addresses, Bool.and_eq_true,
      beq_iff_eq, Bool.false_eq_true, false_iff]
    exact fun h => hpath ⟨h.1, h.2.1⟩

/-- Whether an entity meets all clauses of a group. -/
def AllHold (group : List Clause) (e : Entity) : Prop :=
  ∀ clause ∈ group, clause.condition.holds e = true

instance (group : List Clause) (e : Entity) : Decidable (AllHold group e) :=
  inferInstanceAs (Decidable (∀ clause ∈ group, clause.condition.holds e = true))

theorem allHold_append {group more : List Clause} {e : Entity} :
    AllHold (group ++ more) e ↔ AllHold group e ∧ AllHold more e :=
  List.forall_mem_append

/-- Whether an entity meets a group that is closed by an `OR`, or is the one of the id and meets
the clauses since the last `OR`. -/
def LookupHolds (clauses : List Clause) (literal : KeyLiteral) (e : Entity) : Prop :=
  (∃ group ∈ earlierGroups clauses, AllHold group e) ∨
    AllHold (lastGroup clauses) e ∧ e.key.ancestors = [] ∧ literal.addresses e.key = true

instance (clauses : List Clause) (literal : KeyLiteral) (e : Entity) :
    Decidable (LookupHolds clauses literal e) :=
  inferInstanceAs (Decidable (_ ∨ _))

/-- A look-up without other clauses is for the entity of the id. -/
theorem lookupHolds_nil {literal : KeyLiteral} {e : Entity} :
    LookupHolds [] literal e ↔ e.key.ancestors = [] ∧ literal.addresses e.key = true := by
  constructor
  · rintro (⟨group, hmem, -⟩ | ⟨-, h⟩)
    · cases hmem
    · exact h
  · intro h
    exact .inr ⟨fun clause hmem => (nomatch hmem), h⟩

end Clause

namespace Statement

/-- A statement of groups of clauses is met by the entities that all clauses of a group hold of. -/
theorem isMetBy_iff {s : Statement} {groups : List (List Clause)} {e : Entity}
    (h : s.groups = groups.map (·.map Clause.condition)) (hne : groups ≠ []) :
    s.isMetBy e = true ↔ ∃ group ∈ groups, Clause.AllHold group e := by
  have hsome : (groups.map (·.map Clause.condition)).isEmpty = false := by
    simpa using hne
  rw [isMetBy, h, hsome, Bool.false_or, List.any_map, List.any_eq_true]
  simp only [Function.comp_apply, List.all_map, List.all_eq_true, Clause.AllHold]

/-- The entities that a query finds, in the order of its sorting. -/
def sorted (s : Statement) (entities : List Entity) : List Entity :=
  (entities.filter s.finds).mergeSort fun a b => orderBySpecs s.orders a b != .gt

theorem mem_sorted {s : Statement} {entities : List Entity} {e : Entity} :
    e ∈ s.sorted entities ↔ e ∈ entities ∧ s.finds e = true := by
  rw [sorted, List.mem_mergeSort, List.mem_filter]

/-- Without fields to sort by the entities stay in the order of their ids. -/
theorem sorted_of_no_orders {s : Statement} (h : s.orders = []) (entities : List Entity) :
    s.sorted entities = entities.filter s.finds := by
  refine List.mergeSort_of_pairwise (List.pairwise_of_forall fun a b => ?_)
  rw [h]
  rfl

/-- What a query with any limit but zero returns first. -/
theorem head?_run_of_pos {s : Statement}
    (h : 0 < (s.limit.map UInt64.toNat).getD defaultLimit) (entities : List Entity) :
    (s.run entities).head? =
      (((s.sorted entities).drop ((s.offset.map UInt64.toNat).getD 0)).head?).map
        fun e => e.select s.projection := by
  rw [run, List.head?_map]
  show (((s.sorted entities).drop _).take _).head?.map _ = _
  rw [List.head?_take, if_neg (by omega)]

/-- What a query with a limit of one returns first. -/
theorem head?_run {s : Statement} (h : s.limit = some 1) (entities : List Entity) :
    (s.run entities).head? =
      (((s.sorted entities).drop ((s.offset.map UInt64.toNat).getD 0)).head?).map
        fun e => e.select s.projection :=
  head?_run_of_pos (by rw [h]; decide) entities

/-- A statement that only limits what meets its filter returns the first ones of these. -/
theorem run_unsorted {s : Statement} (hprojection : s.projection = [])
    (horders : s.orders = []) (hoffset : s.offset = none) (entities : List Entity) :
    s.run entities =
      (entities.filter s.isMetBy).take ((s.limit.map UInt64.toNat).getD defaultLimit) := by
  have hfinds : s.finds = s.isMetBy := by
    funext e
    rw [finds, hprojection]
    exact Bool.and_true _
  have hselect : (fun e : Entity => e.select s.projection) = id := by
    funext e
    rw [hprojection]
    rfl
  have hsorted := sorted_of_no_orders horders entities
  rw [sorted, hfinds] at hsorted
  rw [run, hfinds, hsorted, hselect, hoffset, List.map_id]
  rfl

theorem run_plain {s : Statement} (hprojection : s.projection = [])
    (horders : s.orders = []) (hoffset : s.offset = none) {n : UInt64} (hlimit : s.limit = some n)
    (entities : List Entity) : s.run entities = (entities.filter s.isMetBy).take n.toNat := by
  rw [run_unsorted hprojection horders hoffset, hlimit]
  rfl

end Statement

namespace Query

open Clause

/-- An entity is found if it has the fields to return and the clauses of the look-up hold of it. -/
theorem finds_lookup_iff {q : Query} {kind : String} {clauses : List Clause} {id : FilterValue}
    {columns : List String} {e : Entity} :
    (q.compiledLookup kind clauses id columns).statement.finds e = true ↔
      e.hasAll (q.withColumns columns).projections = true ∧
        LookupHolds clauses (id.toKeyLiteral kind) e := by
  have hgroups : (q.compiledLookup kind clauses id columns).statement.groups =
      (earlierGroups clauses ++ [lastGroup clauses ++ [onKey (id.toKeyLiteral kind)]]).map
        (·.map condition) := by
    rw [← groups_concat rfl]
    rfl
  have hlast : AllHold (lastGroup clauses ++ [onKey (id.toKeyLiteral kind)]) e ↔
      AllHold (lastGroup clauses) e ∧ e.key.ancestors = [] ∧
        (id.toKeyLiteral kind).addresses e.key = true := by
    rw [allHold_append, ← holds_onKey]
    exact and_congr_right fun _ => List.forall_mem_singleton
  rw [Statement.finds, Bool.and_eq_true, Statement.isMetBy_iff hgroups (by simp), LookupHolds,
    and_comm]
  apply and_congr_right
  intro _
  simp only [List.mem_append, List.mem_singleton, or_and_right, exists_or, exists_eq_left, hlast]

/-- The entities that a look-up finds, in the order of the sorting of the query. -/
def found (q : Query) (kind : String) (clauses : List Clause) (id : FilterValue)
    (columns : List String) (store : MemoryStore) : List Entity :=
  ((store.shelf (q.ns, kind)).filter fun e =>
      e.hasAll (q.withColumns columns).projections &&
        decide (LookupHolds clauses (id.toKeyLiteral kind) e)).mergeSort
    fun a b => Statement.orderBySpecs q.orders a b != .gt

theorem sorted_lookup (q : Query) (kind : String) (clauses : List Clause) (id : FilterValue)
    (columns : List String) (store : MemoryStore) :
    (q.compiledLookup kind clauses id columns).statement.sorted (store.shelf (q.ns, kind)) =
      q.found kind clauses id columns store := by
  have hfilter : (store.shelf (q.ns, kind)).filter
        (q.compiledLookup kind clauses id columns).statement.finds =
      (store.shelf (q.ns, kind)).filter fun e =>
        e.hasAll (q.withColumns columns).projections &&
          decide (LookupHolds clauses (id.toKeyLiteral kind) e) := by
    refine List.filter_congr fun e _ => Bool.eq_iff_iff.2 ?_
    rw [finds_lookup_iff, Bool.and_eq_true, decide_eq_true_iff]
  rw [Statement.sorted, hfilter]
  rfl

theorem mem_found {q : Query} {kind : String} {clauses : List Clause} {id : FilterValue}
    {columns : List String} {store : MemoryStore} {e : Entity} :
    e ∈ q.found kind clauses id columns store ↔
      e ∈ store.shelf (q.ns, kind) ∧ e.hasAll (q.withColumns columns).projections = true ∧
        LookupHolds clauses (id.toKeyLiteral kind) e := by
  rw [← sorted_lookup, Statement.mem_sorted, finds_lookup_iff]

/-- The entity that a look-up answers with: the first that it finds behind the offset. -/
def answered (q : Query) (kind : String) (clauses : List Clause) (id : FilterValue)
    (columns : List String) (store : MemoryStore) : Option Entity :=
  ((q.found kind clauses id columns store).drop ((q.offset.map UInt64.toNat).getD 0)).head?

theorem mem_found_of_answered {q : Query} {kind : String} {clauses : List Clause}
    {id : FilterValue} {columns : List String} {store : MemoryStore} {e : Entity}
    (h : q.answered kind clauses id columns store = some e) :
    e ∈ q.found kind clauses id columns store :=
  List.mem_of_mem_drop (List.mem_of_mem_head? h)

/-- A look-up that compiles and is read answers with the fields to return of one entity. -/
theorem find_eq_ok_iff_answered {q : Query} {id : FilterValue} {columns : List String}
    {s : Session MemoryStore} {answer : Option Record} :
    (q.find id columns s).1 = .ok answer ↔
      ∃ kind clauses, q.kind = some kind ∧ compileAll kind q.clauses = .ok clauses ∧
        s.store.isUnavailable = false ∧
        (q.compiledLookup kind clauses id columns).isReadable = true ∧
        answer = (q.answered kind clauses id columns s.store).map
          fun e => Record.ofEntity (e.select (q.withColumns columns).projections) := by
  have hhead : ∀ kind clauses,
      (((q.compiledLookup kind clauses id columns).statement.run
          (s.store.shelf (q.ns, kind))).head?).map Record.ofEntity =
        (q.answered kind clauses id columns s.store).map
          fun e => Record.ofEntity (e.select (q.withColumns columns).projections) := by
    intro kind clauses
    rw [Statement.head?_run rfl, sorted_lookup, Option.map_map]
    rfl
  rw [find_eq_ok_iff]
  constructor
  · rintro ⟨compiled, hcompile, hup, hreadable, rfl⟩
    obtain ⟨kind, clauses, hkind, hclauses, rfl⟩ := compile_lookup_iff.1 hcompile
    exact ⟨kind, clauses, hkind, hclauses, hup, hreadable, hhead kind clauses⟩
  · rintro ⟨kind, clauses, hkind, hclauses, hup, hreadable, rfl⟩
    exact ⟨_, compile_lookup_iff.2 ⟨kind, clauses, hkind, hclauses, rfl⟩, hup, hreadable,
      (hhead kind clauses).symm⟩

/-- The key of the entity that a look-up is for. -/
def soughtKey (q : Query) (kind : String) (id : FilterValue) : Key :=
  ⟨q.ns, [], ⟨kind, some (id.toKeyLiteral kind).id⟩⟩

/-- An entity that a look-up finds has the key that is sought, or it meets a group that is closed
by an `OR`. -/
theorem key_of_mem_found {q : Query} {kind : String} {clauses : List Clause} {id : FilterValue}
    {columns : List String} {store : MemoryStore} (hfiled : store.IsFiled) {e : Entity}
    (h : e ∈ q.found kind clauses id columns store) :
    e.key = q.soughtKey kind id ∨ ∃ group ∈ earlierGroups clauses, AllHold group e := by
  obtain ⟨hstored, -, hgroup | ⟨-, hroot, haddressed⟩⟩ := mem_found.1 h
  · exact .inr hgroup
  · have hpartition := hfiled.partition hstored
    simp only [KeyLiteral.addresses, Bool.and_eq_true, beq_iff_eq] at haddressed
    refine .inl ?_
    obtain ⟨⟨ns, ancestors, ⟨own, number⟩⟩, properties, excluded⟩ := e
    cases hpartition
    obtain ⟨-, hid⟩ := haddressed
    cases hroot
    exact congrArg (fun number => (⟨q.ns, [], ⟨own, number⟩⟩ : Key)) hid

/-- How a query of compiled clauses answers the look-up of an id. -/
structure AnswersByGroups (q : Query) (kind : String) (clauses : List Clause) (id : FilterValue)
    (columns : List String) (store : MemoryStore) (answer : Option Record) : Prop where
  /-- The answer is what is to return of one entity of the kind. -/
  answer : answer = (q.answered kind clauses id columns store).map fun e =>
    Record.ofEntity (e.select (q.withColumns columns).projections)
  stored : ∀ e, q.answered kind clauses id columns store = some e →
    e ∈ store.shelf (q.ns, kind)
  /-- It is another entity than the one of the id only if it meets a group closed by an `OR`. -/
  other_iff : (∃ e, q.answered kind clauses id columns store = some e ∧
      e.key ≠ q.soughtKey kind id) ↔
    ∃ e, q.answered kind clauses id columns store = some e ∧ e.key ≠ q.soughtKey kind id ∧
      ∃ group ∈ earlierGroups clauses, AllHold group e
  /-- There is no other entity to answer with, whatever the order and the offset, if and only if
  none with the fields to return meets such a group. -/
  found_iff : (∀ e ∈ q.found kind clauses id columns store, e.key = q.soughtKey kind id) ↔
    ∀ e ∈ store.shelf (q.ns, kind), e.hasAll (q.withColumns columns).projections = true →
      (∃ group ∈ earlierGroups clauses, AllHold group e) → e.key = q.soughtKey kind id
  /-- Without an `OR` it is the entity of the id. -/
  of_and_only : (∀ clause ∈ q.clauses.tail, clause.connector = .and) →
    ∀ e, q.answered kind clauses id columns store = some e → e.key = q.soughtKey kind id

theorem answersByGroups_of_find {q : Query} {id : FilterValue} {columns : List String}
    {s : Session MemoryStore} {answer : Option Record} (hfiled : s.store.IsFiled)
    (h : (q.find id columns s).1 = .ok answer) :
    ∃ kind clauses, q.kind = some kind ∧ compileAll kind q.clauses = .ok clauses ∧
      q.AnswersByGroups kind clauses id columns s.store answer := by
  obtain ⟨kind, clauses, hkind, hclauses, -, -, hanswer⟩ := find_eq_ok_iff_answered.1 h
  refine ⟨kind, clauses, hkind, hclauses, hanswer, ?_, ?_, ?_, ?_⟩
  · intro e he
    exact (mem_found.1 (mem_found_of_answered he)).1
  · constructor
    · rintro ⟨e, he, hother⟩
      rcases key_of_mem_found hfiled (mem_found_of_answered he) with hkey | hgroup
      · exact absurd hkey hother
      · exact ⟨e, he, hother, hgroup⟩
    · rintro ⟨e, he, hother, -⟩
      exact ⟨e, he, hother⟩
  · constructor
    · intro hkey e hmem hfields hgroup
      exact hkey e (mem_found.2 ⟨hmem, hfields, .inl hgroup⟩)
    · intro hgroups e hmem
      rcases key_of_mem_found hfiled hmem with hkey | hgroup
      · exact hkey
      · obtain ⟨hstored, hfields, -⟩ := mem_found.1 hmem
        exact hgroups e hstored hfields hgroup
  · intro hand e he
    rcases key_of_mem_found hfiled (mem_found_of_answered he) with hkey | ⟨group, hgroup, -⟩
    · exact hkey
    · rw [earlierGroups_eq_nil (and_of_compileAll hclauses hand)] at hgroup
      cases hgroup

end Query

/-! ## The result -/

/-- A request to find an entity is a look-up. -/
theorem Request.execute_find {request : Request} {connection : Connection} {v : Json}
    {s : Session MemoryStore} {json : Json} (hfind : request.find = some v)
    (h : (request.execute connection s).1 = .ok json) :
    ∃ answer, json = (answer.map Record.toJson).getD .null ∧
      ((request.addSettings connection.query).find (.literal v) [] s).1 = .ok answer := by
  have hfirst : ((request.addTo connection.query).first [] s) =
      (request.addSettings connection.query).find (.literal v) [] s := by
    rw [addTo, hfind]
    rfl
  rw [execute, hfind] at h
  simp only [hfirst] at h
  split at h
  · cases h
  · next hnone =>
    cases h
    exact ⟨none, rfl, by rw [hnone]⟩
  · next record _ hsome =>
    cases h
    exact ⟨some record, rfl, by rw [hsome]⟩

/-- What look-ups by id answer on a store: with an entity that meets the clauses of a group closed
by an `OR`, whatever its id, or with the one of the id.  A request to find an entity, with
whatever filters, answers the same. -/
theorem Query.find_answers_by_groups {s : Session MemoryStore} (hreach : s.store.Reachable) :
    (∀ (q : Query) (id : FilterValue) (columns : List String) (answer : Option Record),
      (q.find id columns s).1 = .ok answer →
        ∃ kind clauses, q.kind = some kind ∧ Clause.compileAll kind q.clauses = .ok clauses ∧
          q.AnswersByGroups kind clauses id columns s.store answer) ∧
    ∀ (request : Request) (connection : Connection) (v : Json) (json : Json) (q : Query),
      q = request.addSettings connection.query → request.find = some v →
        (request.execute connection s).1 = .ok json →
          ∃ kind clauses answer, q.kind = some kind ∧
            Clause.compileAll kind q.clauses = .ok clauses ∧
            json = (answer.map Record.toJson).getD .null ∧
            q.AnswersByGroups kind clauses (.literal v) [] s.store answer := by
  constructor
  · intro q id columns answer h
    exact answersByGroups_of_find hreach.isFiled h
  · rintro request connection v json q rfl hfind h
    obtain ⟨answer, hjson, hanswer⟩ := Request.execute_find hfind h
    obtain ⟨kind, clauses, hkind, hclauses, hgroups⟩ :=
      answersByGroups_of_find hreach.isFiled hanswer
    exact ⟨kind, clauses, answer, hkind, hclauses, hjson, hgroups⟩

/-- A store of two entities with different properties. -/
def MemoryStore.twoWidgets : MemoryStore :=
  run [.insert ⟨.root "Widget" (.number 1), [("a", .ofInt64 1)], []⟩,
    .insert ⟨.root "Widget" (.number 2), [("b", .ofInt64 2)], []⟩] .empty

/-- The query for the entities with `a = 1` or `b = 2`. -/
def Query.aOrB : Query :=
  ((Query.empty.ofKind "Widget").filter "a" "=" (.literal (.ofInt64 1))).orFilter "b" "="
    (.literal (.ofInt64 2))

/-- The look-up of the second entity answers with the first. -/
theorem Query.find_answers_by_groups_other :
    MemoryStore.twoWidgets.Reachable ∧
      (aOrB.find (.literal (.ofInt64 2)) [] ⟨MemoryStore.twoWidgets, .empty .info⟩).1 =
        .ok (some ⟨[("a", .ofInt64 1)]⟩) ∧
      ∃ kind clauses, aOrB.kind = some kind ∧
        Clause.compileAll kind aOrB.clauses = .ok clauses ∧
        aOrB.AnswersByGroups kind clauses (.literal (.ofInt64 2)) [] .twoWidgets
          (some ⟨[("a", .ofInt64 1)]⟩) := by
  have hreach : MemoryStore.twoWidgets.Reachable := ⟨_, rfl⟩
  have hfind : (aOrB.find (.literal (.ofInt64 2)) [] ⟨MemoryStore.twoWidgets, .empty .info⟩).1 =
      .ok (some ⟨[("a", .ofInt64 1)]⟩) := by
    refine find_eq_ok_iff.2 ⟨_, compile_lookup_iff.2 ⟨"Widget", _, rfl, rfl, rfl⟩, rfl, rfl, ?_⟩
    rw [Statement.head?_run rfl, Statement.sorted_of_no_orders rfl]
    rfl
  have hgroups := find_answers_by_groups (s := ⟨MemoryStore.twoWidgets, .empty .info⟩) hreach
  exact ⟨hreach, hfind, hgroups.1 _ _ _ _ hfind⟩

end EntityQuery
