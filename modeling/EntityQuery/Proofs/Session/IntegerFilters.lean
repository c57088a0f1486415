import EntityQuery.Proofs.Json.IntegerOrder
import EntityQuery.Proofs.Session.Lookup
import EntityQuery.Proofs.Session.StoredValue
import EntityQuery.Proofs.Store.ResultOrder

/-!
# Filtering and sorting by integers

Filters and sorts compare integers by size, except that merged integers count as equal: a
filter does not tell them apart, and a sort leaves their entities in the order of their ids.  Only
integers from just below 2⁶³ on are ever merged, and only with near ones.

* Filters.  `Operator.Relates` is what an operator says of two integers, and
  `Statement.ComparesIntegers` that a filter says it of the integers of a property.
* Sorting.  `Statement.SortsIntegers` is how a query sorts entities by the integers of a property.
* The result.  `Query.compares_integers` is about filters of all operators and fields, and about
  sorts by any field.
-/

namespace EntityQuery

open TotalOrder (order orderInt orderInt_lt_iff orderInt_eq_iff orderInt_swap)

/-- The integer that a property of an entity is. -/
def Entity.integer? (e : Entity) (field : String) : Option JsonInt :=
  match e.get? field with
  | some (.number (.integer n)) => some n
  | _ => none

theorem Entity.integer?_eq_some {e : Entity} {field : String} {n : JsonInt} :
    e.integer? field = some n ↔ e.get? field = some (.number (.integer n)) := by
  rw [integer?]
  split <;> simp_all

/-! ## Filters -/

namespace Operator

/-- What an operator says of two integers. -/
def Relates : Operator → Int → Int → Prop
  | .equal, m, n => m = n
  | .less, m, n => m < n
  | .greater, m, n => n < m
  | .atMost, m, n => m ≤ n
  | .atLeast, m, n => n ≤ m
  | .unequal, m, n | .notEqual, m, n => m ≠ n

theorem holds_orderInt (op : Operator) (m n : Int) :
    op.holds (orderInt m n) = true ↔ op.Relates m n := by
  rcases Int.lt_trichotomy m n with hlt | heq | hgt
  · rw [orderInt_lt_iff.2 hlt]
    cases op <;> simp [holds, Relates] <;> omega
  · rw [orderInt_eq_iff.2 heq]
    cases op <;> simp [holds, Relates] <;> omega
  · rw [orderInt_swap, orderInt_lt_iff.2 hgt]
    cases op <;> simp [holds, Relates] <;> omega

end Operator

namespace Statement

/-- How a filter compares the integers of a property with a given one. -/
structure ComparesIntegers (s : Statement) (field : String) (op : Operator) (n : JsonInt) :
    Prop where
  /-- It says of them what an operator says of them and the given integer, except that it takes
  those merged with the given integer for equal to it. -/
  relates : ∀ {e m}, Entity.integer? e field = some m →
    (s.isMetBy e = true ↔ op.Relates m.val (if m.Merged n then m.val else n.val))
  /-- There is no exception among those that are small enough or far enough from it. -/
  relates_of_far : ∀ {e m}, Entity.integer? e field = some m →
    m.val < 9223372036854775296 ∨ 2048 < (m.val - n.val).natAbs →
      (s.isMetBy e = true ↔ op.Relates m.val n.val)

/-- A filter reads the key of an entity and no property. -/
def ReadsKeyOnly (s : Statement) : Prop :=
  ∀ {e e' : Entity}, e.key = e'.key → s.isMetBy e = s.isMetBy e'

theorem isMetBy_integer {s : Statement} {field : String} {op : Operator} {n : JsonInt}
    (hkey : field ≠ keyField)
    (h : s.groups = [[⟨field, op, .value (.number (.reread (.integer n)))⟩]]) {e : Entity}
    {m : JsonInt} (hvalue : e.integer? field = some m) :
    s.isMetBy e = true ↔ op.Relates m.val (if m.Merged n then m.val else n.val) := by
  rw [isMetBy_of_groups h, Condition.holds_value hkey op _ (Entity.integer?_eq_some.1 hvalue)]
  have hcompare : Json.order? (.number (.integer m)) (.number (.reread (.integer n))) =
      some (m.compared n) := JsonNumber.order?_reread_integer m n
  rw [hcompare, Operator.accepts, JsonInt.compared, ← Operator.holds_orderInt]
  split
  · rw [orderInt_eq_iff.2 rfl]
  · rfl

theorem comparesIntegers_of_groups {s : Statement} {field : String} {op : Operator} {n : JsonInt}
    (hkey : field ≠ keyField)
    (h : s.groups = [[⟨field, op, .value (.number (.reread (.integer n)))⟩]]) :
    s.ComparesIntegers field op n := by
  constructor
  · exact isMetBy_integer hkey h
  · intro e m hvalue hfar
    rw [isMetBy_integer hkey h hvalue, if_neg (JsonInt.not_merged_of_far hfar)]

theorem readsKeyOnly_of_groups {s : Statement} {op : Operator} {operand : Operand}
    (h : s.groups = [[⟨keyField, op, operand⟩]]) : s.ReadsKeyOnly := by
  intro e e' hsame
  rw [isMetBy_of_groups h, isMetBy_of_groups h, Condition.holds, Condition.holds, if_pos rfl,
    if_pos rfl, hsame]

end Statement

namespace Query

variable {q : Query} {kind field raw : String} {op : Operator} {value : FilterValue}

/-- A query with one filter is compiled, and its text is read as a statement with one
condition. -/
theorem parse_of_filter {clause : Clause} (hkind : q.kind = some kind) (hclauses : q.clauses = [])
    (hlimit : CompiledQuery.countIsReadable q.limit = true)
    (hoffset : CompiledQuery.countIsReadable q.offset = true)
    (hclause : Clause.compile kind ⟨field, raw, value, .and⟩ = .ok clause)
    (hvalue : clause.value.isReadable = true) :
    ∃ compiled statement, (q.filter field raw value).compile = .ok compiled ∧
      Gql.parse compiled.gql = .ok statement ∧ statement.groups = [[clause.condition]] := by
  have hcompile := compile_filter_of_clause hkind hclauses hclause
  have hreadable : CompiledQuery.isReadable ⟨{ q with clauses := [clause] }, kind⟩ = true := by
    simp only [CompiledQuery.isReadable, List.all_cons, List.all_nil, hvalue, hlimit, hoffset,
      Bool.and_true]
  exact ⟨_, _, hcompile,
    CompiledQuery.parse_gql (CompiledQuery.isWritten_of_compile hcompile) hreadable, rfl⟩

end Query

/-! ## Sorting -/

namespace Statement

/-- How a query sorts entities by the integers of a property. -/
structure SortsIntegers (s : Statement) (field : String) : Prop where
  /-- Of two entities the one with the smaller integer is first; where the integers are equal or
  merged, the two stay as they are. -/
  pair : ∀ {x y : Entity} {m n : JsonInt}, x.integer? field = some m → y.integer? field = some n →
    s.finds x = true → s.finds y = true →
    s.sorted [x, y] = if n.val < m.val ∧ ¬m.Merged n then [y, x] else [x, y]
  /-- The entities that are returned are in ascending order, if none of their integers are
  merged. -/
  ascending : ∀ {entities : List Entity},
    (∀ e ∈ entities, s.finds e = true → (e.integer? field).isSome = true) →
    (∀ x ∈ entities, ∀ y ∈ entities, s.finds x = true → s.finds y = true →
      ∀ m ∈ x.integer? field, ∀ n ∈ y.integer? field, ¬m.Merged n) →
    ∃ kept : List Entity, s.run entities = kept.map (fun e => e.select s.projection) ∧
      kept.Pairwise fun x y => ∃ m ∈ x.integer? field, ∃ n ∈ y.integer? field, m.val ≤ n.val
  /-- Small integers are in ascending order always. -/
  ascending_of_small : ∀ {entities : List Entity},
    (∀ e ∈ entities, s.finds e = true → ∃ m ∈ e.integer? field, m.val < 9223372036854775296) →
    ∃ kept : List Entity, s.run entities = kept.map (fun e => e.select s.projection) ∧
      kept.Pairwise fun x y => ∃ m ∈ x.integer? field, ∃ n ∈ y.integer? field, m.val ≤ n.val

/-- Entities with integers are compared by these. -/
theorem orderBySpecs_integers {field : String} {x y : Entity} {m n : JsonInt}
    (hx : x.integer? field = some m) (hy : y.integer? field = some n) :
    orderBySpecs [⟨field, .ascending⟩] x y = m.compared n := by
  have hcompare : Json.sortOrder (x.get? field) (y.get? field) = m.compared n := by
    rw [Entity.integer?_eq_some.1 hx, Entity.integer?_eq_some.1 hy]
    show (JsonNumber.order? (.integer m) (.integer n)).getD _ = _
    rw [JsonNumber.order?_integer, Option.getD_some]
  show (Json.sortOrder (x.get? field) (y.get? field)).then .eq = _
  rw [hcompare, Ordering.then_eq]

/-- Two entities change places if the first has the larger integer and they are not merged. -/
theorem sorted_pair {s : Statement} {field : String} (h : s.orders = [⟨field, .ascending⟩])
    {x y : Entity} {m n : JsonInt} (hx : x.integer? field = some m)
    (hy : y.integer? field = some n) (hxfound : s.finds x = true) (hyfound : s.finds y = true) :
    s.sorted [x, y] = if n.val < m.val ∧ ¬m.Merged n then [y, x] else [x, y] := by
  have hfound : [x, y].filter s.finds = [x, y] := by simp [hxfound, hyfound]
  have hcompare : orderBySpecs s.orders x y = m.compared n := by
    rw [h, orderBySpecs_integers hx hy]
  rw [sorted, hfound]
  split
  · next hgreater =>
    have hgt := JsonInt.compared_eq_gt_iff.2 hgreater
    simp [List.mergeSort, List.MergeSort.Internal.splitInTwo, hcompare, hgt]
  · next hnot =>
    have hle : m.compared n ≠ .gt := fun hgt => hnot (JsonInt.compared_eq_gt_iff.1 hgt)
    simp [List.mergeSort, List.MergeSort.Internal.splitInTwo, hcompare, hle]

/-- Entities of which no two integers are merged are sorted by size. -/
theorem pairwise_sorted {s : Statement} {field : String} (h : s.orders = [⟨field, .ascending⟩])
    {entities : List Entity}
    (hinteger : ∀ e ∈ entities, s.finds e = true → (e.integer? field).isSome = true)
    (hunmerged : ∀ x ∈ entities, ∀ y ∈ entities, s.finds x = true → s.finds y = true →
      ∀ m ∈ x.integer? field, ∀ n ∈ y.integer? field, ¬m.Merged n) :
    (s.sorted entities).Pairwise fun x y =>
      ∃ m ∈ x.integer? field, ∃ n ∈ y.integer? field, m.val ≤ n.val := by
  let size : Entity → Int := fun e => ((e.integer? field).map JsonInt.val).getD 0
  have hsize : Std.TransCmp fun x y => order (size x) (size y) :=
    TotalOrder.transCmp_view size
  have hcompare : ∀ x ∈ entities.filter s.finds, ∀ y ∈ entities.filter s.finds,
      ∃ m ∈ x.integer? field, ∃ n ∈ y.integer? field, size x = m.val ∧ size y = n.val ∧
        orderBySpecs s.orders x y = orderInt m.val n.val := by
    intro x hx y hy
    rw [List.mem_filter] at hx hy
    obtain ⟨m, hm⟩ := Option.isSome_iff_exists.1 (hinteger x hx.1 hx.2)
    obtain ⟨n, hn⟩ := Option.isSome_iff_exists.1 (hinteger y hy.1 hy.2)
    refine ⟨m, hm, n, hn, by simp [size, hm], by simp [size, hn], ?_⟩
    rw [h, orderBySpecs_integers hm hn, JsonInt.compared,
      if_neg (hunmerged x hx.1 y hy.1 hx.2 hy.2 m hm n hn)]
  have hsort : s.sorted entities =
      (entities.filter s.finds).mergeSort fun x y => order (size x) (size y) != .gt := by
    apply mergeSort_congr
    intro x hx y hy
    obtain ⟨m, -, n, -, hm, hn, horder⟩ := hcompare x hx y hy
    rw [horder, hm, hn]
    rfl
  rw [hsort]
  refine (List.pairwise_mergeSort bne_gt_trans bne_gt_total _).imp_of_mem ?_
  intro x y hx hy hle
  obtain ⟨m, hm, n, hn, hmsize, hnsize, -⟩ :=
    hcompare x (List.mem_mergeSort.1 hx) y (List.mem_mergeSort.1 hy)
  refine ⟨m, hm, n, hn, ?_⟩
  rw [hmsize, hnsize, bne_iff_ne] at hle
  apply Int.le_of_not_gt
  intro hlt
  exact hle (TotalOrder.order_gt_iff.2 (orderInt_lt_iff.2 hlt))

/-- What is returned of sorted entities is sorted. -/
theorem ascending_run {s : Statement} {field : String} (h : s.orders = [⟨field, .ascending⟩])
    {entities : List Entity}
    (hinteger : ∀ e ∈ entities, s.finds e = true → (e.integer? field).isSome = true)
    (hunmerged : ∀ x ∈ entities, ∀ y ∈ entities, s.finds x = true → s.finds y = true →
      ∀ m ∈ x.integer? field, ∀ n ∈ y.integer? field, ¬m.Merged n) :
    ∃ kept : List Entity, s.run entities = kept.map (fun e => e.select s.projection) ∧
      kept.Pairwise fun x y => ∃ m ∈ x.integer? field, ∃ n ∈ y.integer? field, m.val ≤ n.val := by
  have hsorted := pairwise_sorted h hinteger hunmerged
  refine ⟨((s.sorted entities).drop ((s.offset.map UInt64.toNat).getD 0)).take
    ((s.limit.map UInt64.toNat).getD defaultLimit), rfl, ?_⟩
  exact hsorted.sublist ((List.take_sublist ..).trans (List.drop_sublist ..))

theorem sortsIntegers_of_orders {s : Statement} {field : String}
    (h : s.orders = [⟨field, .ascending⟩]) : s.SortsIntegers field where
  pair := sorted_pair h
  ascending := ascending_run h
  ascending_of_small := by
    intro entities hsmall
    apply ascending_run h
    · intro e hmem hfound
      obtain ⟨m, hm, -⟩ := hsmall e hmem hfound
      exact Option.isSome_iff_exists.2 ⟨m, hm⟩
    · intro x hx y _ hfound _ m hm n _
      obtain ⟨m', hm', hlt⟩ := hsmall x hx hfound
      obtain rfl : m' = m := Option.mem_unique hm' hm
      exact JsonInt.not_merged_of_far (.inl hlt)

end Statement

/-! ## The result -/

namespace Query

variable {q : Query} {kind field raw : String} {op : Operator}

/-- How integers are compared.  A filter by an integer, of any operator and on any field, is
compiled, and its text is read again; it says what the operator says of the integers of the
property, except that integers merged with the given one count as equal to it.  Only `id` and the
name of the key stand for the key and for no property.  A sort by any field puts smaller integers
first, except that merged integers count as equal.  Small integers are never merged, nor are those
that are far from each other. -/
theorem compares_integers (hkind : q.kind = some kind) (hclauses : q.clauses = [])
    (hlimit : CompiledQuery.countIsReadable q.limit = true)
    (hoffset : CompiledQuery.countIsReadable q.offset = true)
    (hread : Operator.read raw = .ok op) (field : String) (n : JsonInt) :
    (∃ compiled statement,
      (q.filter field raw (.literal (.number (.integer n)))).compile = .ok compiled ∧
      Gql.parse compiled.gql = .ok statement ∧
      (field ≠ identityField ∧ field ≠ keyField → statement.ComparesIntegers field op n) ∧
      (field = identityField ∨ field = keyField → statement.ReadsKeyOnly)) ∧
    ∀ statement : Statement, statement.orders = [⟨field, .ascending⟩] →
      statement.SortsIntegers field := by
  constructor
  · by_cases hidentity : field = identityField
    · subst hidentity
      obtain ⟨compiled, statement, hcompile, hparse, hgroups⟩ := parse_of_filter hkind hclauses
        hlimit hoffset (Clause.compile_onIdentity hread kind (.literal (.number (.integer n)))) rfl
      rw [Clause.condition_eq] at hgroups
      refine ⟨compiled, statement, hcompile, hparse, ?_, ?_⟩
      · intro hproperty
        exact absurd rfl hproperty.1
      · intro _
        exact Statement.readsKeyOnly_of_groups hgroups
    · obtain ⟨compiled, statement, hcompile, hparse, hgroups⟩ := parse_of_filter hkind hclauses
        hlimit hoffset (Clause.compile_onProperty hidentity hread kind
          (.literal (.number (.integer n)))) rfl
      rw [Clause.condition_eq] at hgroups
      refine ⟨compiled, statement, hcompile, hparse, ?_, ?_⟩
      · intro hproperty
        exact Statement.comparesIntegers_of_groups hproperty.2 hgroups
      · intro hkey
        obtain rfl : field = keyField := hkey.resolve_left hidentity
        exact Statement.readsKeyOnly_of_groups hgroups
  · intro statement horders
    exact Statement.sortsIntegers_of_orders horders

/-- The least integer that is no signed one, and the next: no filter of equality tells them apart,
and no sort puts them in order. -/
theorem compares_integers_merged :
    ∃ m n : JsonInt, n.val < m.val ∧
      (∃ compiled statement, ((Query.empty.ofKind "Widget").filter "n" "="
          (.literal (.number (.integer n)))).compile = .ok compiled ∧
        Gql.parse compiled.gql = .ok statement ∧
        ∀ e : Entity, e.integer? "n" = some m → statement.isMetBy e = true) ∧
      ∀ (statement : Statement) (x y : Entity), statement.orders = [⟨"n", .ascending⟩] →
        x.integer? "n" = some m → y.integer? "n" = some n → statement.finds x = true →
        statement.finds y = true → statement.sorted [x, y] = [x, y] := by
  let m : JsonInt := ⟨9223372036854775809, by decide, by decide⟩
  let n : JsonInt := ⟨9223372036854775808, by decide, by decide⟩
  have hmerged : m.Merged n := by decide +kernel
  have hproperty : "n" ≠ identityField ∧ "n" ≠ keyField := by decide
  obtain ⟨⟨compiled, statement, hcompile, hparse, hfilter, -⟩, hsort⟩ :=
    compares_integers (q := Query.empty.ofKind "Widget") rfl rfl rfl rfl
      (show Operator.read "=" = .ok .equal by decide) "n" n
  refine ⟨m, n, by decide, ⟨compiled, statement, hcompile, hparse, ?_⟩, ?_⟩
  · intro e he
    rw [(hfilter hproperty).relates he, if_pos hmerged]
    rfl
  · intro statement x y horders hx hy hxfound hyfound
    rw [(hsort statement horders).pair hx hy hxfound hyfound, if_neg]
    exact fun h => h.2 hmerged

end Query

end EntityQuery
