import EntityQuery.Proofs.Session.Lookup
import EntityQuery.Proofs.Session.StoredValue

/-!
# Clauses that are added to a query

One more clause behind the others of a query, joined to them by `AND` or by `OR`.  The text has no
parentheses: the first connector is not written, and an `OR` splits all that stands before it from
all that stands behind.

* Matching.  `Query.Matches` is to meet the filter that the text of a query is read as, and
  `Query.matches_iff` says so of the clauses.
* Adding a clause.  `Clause.Meets.of_concat_and` and `Clause.Meets.concat_or`.
* One clause.  `Query.matches_single_iff` is a query of one clause on a property, and
  `Operator.accepts_notEqual` and its like say what its operator makes of a comparison.
* The result.  `Query.added_clauses_monotone`.
-/

namespace EntityQuery

/-! ## Clauses -/

namespace Clause

/-- A clause that is joined by `OR` to others begins a group. -/
theorem groups_concat_or {last : Clause} (h : last.connector = .or) {clauses : List Clause}
    (hne : clauses ≠ []) : groups (clauses ++ [last]) = groups clauses ++ [[last]] := by
  induction clauses with
  | nil => exact absurd rfl hne
  | cons first clauses ih =>
    cases clauses with
    | nil => exact groups_or first h []
    | cons second rest =>
      have hrest := ih (List.cons_ne_nil _ _)
      rw [List.cons_append] at hrest ⊢
      cases hconnector : second.connector with
      | or =>
        rw [List.cons_append, groups_or first hconnector, hrest, groups_or first hconnector]
        rfl
      | and =>
        obtain ⟨group, more, hgroups, hfirst⟩ := groups_and first hconnector rest
        obtain ⟨group', more', hgroups', hfirst'⟩ := groups_and first hconnector (rest ++ [last])
        rw [hgroups', hgroups] at hrest
        rw [List.cons_append, hfirst', hfirst]
        cases hrest
        rfl

/-- Whether an entity meets clauses: all of some group, or anything if there are none. -/
def Meets (clauses : List Clause) (e : Entity) : Prop :=
  clauses = [] ∨ ∃ group ∈ groups clauses, AllHold group e

/-- What meets clauses with one more joined by `AND` meets them without it. -/
theorem Meets.of_concat_and {clauses : List Clause} {last : Clause} {e : Entity}
    (hconnector : last.connector = .and) (h : Meets (clauses ++ [last]) e) : Meets clauses e := by
  by_cases hnil : clauses = []
  · exact .inl hnil
  · have hgroups : groups clauses ≠ [] := List.splitBy_ne_nil.2 hnil
    have hlast : lastGroup clauses = (groups clauses).getLast hgroups := by
      rw [lastGroup, List.getLast?_eq_some_getLast hgroups]
      rfl
    rcases h with h | ⟨group, hmem, hall⟩
    · simp at h
    · rw [groups_concat hconnector, List.mem_append, List.mem_singleton] at hmem
      rcases hmem with hearlier | rfl
      · exact .inr ⟨group, List.dropLast_subset _ hearlier, hall⟩
      · refine .inr ⟨lastGroup clauses, ?_, (allHold_append.1 hall).1⟩
        rw [hlast]
        exact List.getLast_mem hgroups

/-- What meets clauses, of which there are some, meets them with one more joined by `OR`. -/
theorem Meets.concat_or {clauses : List Clause} {last : Clause} {e : Entity}
    (hconnector : last.connector = .or) (hne : clauses ≠ []) (h : Meets clauses e) :
    Meets (clauses ++ [last]) e := by
  rcases h with h | ⟨group, hmem, hall⟩
  · exact absurd h hne
  · refine .inr ⟨group, ?_, hall⟩
    rw [groups_concat_or hconnector hne]
    exact List.mem_append_left _ hmem

end Clause

/-! ## Queries -/

namespace Query

/-- A query compiles, and its text is read. -/
def IsRead (q : Query) : Prop :=
  ∃ compiled statement, q.compile = .ok compiled ∧ Gql.parse compiled.gql = .ok statement

/-- An entity meets the filter that the text of a query is read as. -/
def Matches (q : Query) (e : Entity) : Prop :=
  ∃ compiled statement, q.compile = .ok compiled ∧ Gql.parse compiled.gql = .ok statement ∧
    statement.isMetBy e = true

theorem parse_eq_ok_iff {q : Query} {compiled : CompiledQuery} (h : q.compile = .ok compiled)
    {statement : Statement} :
    Gql.parse compiled.gql = .ok statement ↔
      compiled.isReadable = true ∧ statement = compiled.statement := by
  have hwritten := CompiledQuery.isWritten_of_compile h
  have hparse := CompiledQuery.toOption_parse_gql hwritten
  by_cases hreadable : compiled.isReadable = true
  · rw [CompiledQuery.parse_gql hwritten hreadable, Except.ok.injEq]
    exact ⟨fun h => ⟨hreadable, h.symm⟩, fun h => h.2.symm⟩
  · rw [if_neg hreadable] at hparse
    constructor
    · intro hok
      rw [hok] at hparse
      cases hparse
    · rintro ⟨hread, -⟩
      exact absurd hread hreadable

theorem isRead_iff {q : Query} {compiled : CompiledQuery} (h : q.compile = .ok compiled) :
    q.IsRead ↔ compiled.isReadable = true := by
  constructor
  · rintro ⟨other, statement, hother, hparse⟩
    cases h.symm.trans hother
    exact ((parse_eq_ok_iff h).1 hparse).1
  · intro hreadable
    exact ⟨compiled, _, h, (parse_eq_ok_iff h).2 ⟨hreadable, rfl⟩⟩

/-- The filter of a query is met by what meets its clauses. -/
theorem matches_iff {q : Query} {compiled : CompiledQuery} (h : q.compile = .ok compiled)
    {e : Entity} :
    q.Matches e ↔ compiled.isReadable = true ∧ Clause.Meets compiled.query.clauses e := by
  have hmet : compiled.statement.isMetBy e = true ↔ Clause.Meets compiled.query.clauses e := by
    by_cases hnil : compiled.query.clauses = []
    · have hgroups : compiled.statement.groups = [] := by
        rw [CompiledQuery.statement, hnil]
        rfl
      rw [Statement.isMetBy, hgroups]
      exact ⟨fun _ => .inl hnil, fun _ => rfl⟩
    · rw [Statement.isMetBy_iff rfl (List.splitBy_ne_nil.2 hnil)]
      exact (or_iff_right hnil).symm
  rw [← hmet]
  constructor
  · rintro ⟨other, statement, hother, hparse, hstatement⟩
    cases h.symm.trans hother
    obtain ⟨hreadable, rfl⟩ := (parse_eq_ok_iff h).1 hparse
    exact ⟨hreadable, hstatement⟩
  · rintro ⟨hreadable, hstatement⟩
    exact ⟨compiled, _, h, (parse_eq_ok_iff h).2 ⟨hreadable, rfl⟩, hstatement⟩

end Query

/-- The compiled query with one more clause. -/
def CompiledQuery.add (compiled : CompiledQuery) (last : Clause) : CompiledQuery :=
  ⟨{ compiled.query with clauses := compiled.query.clauses ++ [last] }, compiled.kind⟩

theorem CompiledQuery.isReadable_add (compiled : CompiledQuery) (last : Clause) :
    (compiled.add last).isReadable = (compiled.isReadable && last.value.isReadable) := by
  simp only [isReadable, add, List.all_append, List.all_cons, List.all_nil, Bool.and_true]
  cases last.value.isReadable <;> simp

namespace Query

/-- The query without its clauses. -/
def withoutClauses (q : Query) : Query := { q with clauses := [] }

theorem compile_filterBy {q : Query} {compiled : CompiledQuery} (h : q.compile = .ok compiled)
    {clause last : Clause} (hlast : Clause.CompilesTo compiled.kind clause last) :
    (q.filterBy clause).compile = .ok (compiled.add last) := by
  obtain ⟨hkind, clauses, hquery, hall⟩ := compile_eq_ok_iff.1 h
  refine compile_eq_ok_iff.2 ⟨hkind, clauses ++ [last], ?_, ?_⟩
  · rw [CompiledQuery.add, hquery]
    rfl
  · exact List.rel_append hall (.cons hlast .nil)

/-- A clause that can be read on its own is compiled for any query of the kind, however it is
joined to the others. -/
theorem exists_compilesTo {q : Query} {compiled : CompiledQuery} (h : q.compile = .ok compiled)
    {field raw : String} {value : FilterValue}
    (hone : (q.withoutClauses.filter field raw value).IsRead) :
    ∃ last : Clause, last.value.isReadable = true ∧ ∀ connector,
      Clause.CompilesTo compiled.kind ⟨field, raw, value, connector⟩ { last with connector } := by
  obtain ⟨hkind, -⟩ := compile_eq_ok_iff.1 h
  obtain ⟨single, statement, hsingle, hparse⟩ := hone
  obtain ⟨hkind', clauses, hquery, hall⟩ := compile_eq_ok_iff.1 hsingle
  have hsame : single.kind = compiled.kind := Option.some.inj (hkind'.symm.trans hkind)
  cases hall with
  | @cons _ last _ _ hlast hnil =>
    cases hnil
    have hreadable := ((parse_eq_ok_iff hsingle).1 hparse).1
    rw [CompiledQuery.isReadable, hquery] at hreadable
    simp only [List.all_cons, List.all_nil, Bool.and_true, Bool.and_eq_true] at hreadable
    refine ⟨last, hreadable.1.1, fun connector => ?_⟩
    rw [hsame] at hlast
    exact ⟨hlast.operator, rfl, hlast.other, hlast.identity⟩

/-! ## Adding a clause -/

/-- What a query with one more clause is compiled to, if the query is read and the clause can be
read on its own.  The connector of the clause is all that depends on how it is added. -/
theorem exists_add {q : Query} {field raw : String} {value : FilterValue} (hread : q.IsRead)
    (hone : (q.withoutClauses.filter field raw value).IsRead) :
    ∃ (compiled : CompiledQuery) (last : Clause), q.compile = .ok compiled ∧
      compiled.isReadable = true ∧ ∀ connector,
        (q.filterBy ⟨field, raw, value, connector⟩).compile =
            .ok (compiled.add { last with connector }) ∧
          (compiled.add { last with connector }).isReadable = true := by
  obtain ⟨compiled, statement, hcompile, hparse⟩ := hread
  have hreadable := ((parse_eq_ok_iff hcompile).1 hparse).1
  obtain ⟨last, hvalue, hlast⟩ := exists_compilesTo hcompile hone
  refine ⟨compiled, last, hcompile, hreadable, fun connector => ?_⟩
  refine ⟨compile_filterBy hcompile (hlast connector), ?_⟩
  rw [CompiledQuery.isReadable_add, hreadable, hvalue]
  rfl

/-- A clause that is joined by `AND` leaves no more entities than there were. -/
theorem matches_of_filter {q : Query} {field raw : String} {value : FilterValue} {e : Entity}
    (hread : q.IsRead) (hone : (q.withoutClauses.filter field raw value).IsRead) :
    (q.filter field raw value).IsRead ∧ ((q.filter field raw value).Matches e → q.Matches e) := by
  obtain ⟨compiled, last, hcompile, hreadable, hadd⟩ := exists_add hread hone
  obtain ⟨hadded, hstill⟩ := hadd .and
  refine ⟨(isRead_iff hadded).2 hstill, fun h => (matches_iff hcompile).2 ⟨hreadable, ?_⟩⟩
  exact Clause.Meets.of_concat_and rfl ((matches_iff hadded).1 h).2

/-- A clause that is joined by `OR` to others leaves no fewer entities than there were. -/
theorem orFilter_matches {q : Query} {field raw : String} {value : FilterValue} {e : Entity}
    (hread : q.IsRead) (hone : (q.withoutClauses.filter field raw value).IsRead) :
    (q.orFilter field raw value).IsRead ∧
      (q.clauses ≠ [] → q.Matches e → (q.orFilter field raw value).Matches e) := by
  obtain ⟨compiled, last, hcompile, hreadable, hadd⟩ := exists_add hread hone
  obtain ⟨hadded, hstill⟩ := hadd .or
  refine ⟨(isRead_iff hadded).2 hstill, fun hne h => (matches_iff hadded).2 ⟨hstill, ?_⟩⟩
  have hclauses : compiled.query.clauses ≠ [] := by
    obtain ⟨-, clauses, hquery, hall⟩ := compile_eq_ok_iff.1 hcompile
    rw [hquery]
    rintro rfl
    exact hne (List.forall₂_nil_right_iff.1 hall)
  exact Clause.Meets.concat_or rfl hclauses ((matches_iff hcompile).1 h).2

end Query

/-! ## One clause -/

namespace Operator

/-! Inequality takes what equality refuses, also of values that do not compare; the orders do not
take these. -/

theorem accepts_notEqual (compared : Option Ordering) :
    notEqual.accepts compared = !equal.accepts compared := by
  rcases compared with _ | _ | _ | _ <;> rfl

theorem accepts_unequal (compared : Option Ordering) :
    unequal.accepts compared = notEqual.accepts compared := by
  cases compared <;> rfl

theorem accepts_atMost (compared : Option Ordering) :
    atMost.accepts compared = (less.accepts compared || equal.accepts compared) := by
  rcases compared with _ | _ | _ | _ <;> rfl

theorem accepts_atLeast (compared : Option Ordering) :
    atLeast.accepts compared = (greater.accepts compared || equal.accepts compared) := by
  rcases compared with _ | _ | _ | _ <;> rfl

end Operator

namespace Query

/-- A query with one clause, on a property, asks for its condition, whatever the operator. -/
theorem matches_single_iff {q : Query} (hclauses : q.clauses = []) {field : String}
    (hfield : field ≠ identityField) {value : FilterValue}
    (hread : (q.filter field "=" value).IsRead) (op : Operator) :
    (q.filter field op.text value).IsRead ∧ ∀ e,
      (q.filter field op.text value).Matches e ↔
        (⟨field, op, value.operand⟩ : Condition).holds e = true := by
  obtain ⟨single, statement, hsingle, hparse⟩ := hread
  have hkind : q.kind = some single.kind := (compile_eq_ok_iff.1 hsingle).1
  have hcompile : q.compile = .ok ⟨q, single.kind⟩ := by
    refine compile_eq_ok_iff.2 ⟨hkind, q.clauses, rfl, ?_⟩
    rw [hclauses]
    exact .nil
  have hadded : ∀ op : Operator, (q.filter field op.text value).compile =
      .ok (CompiledQuery.add ⟨q, single.kind⟩ ⟨field, op.text, value, .and⟩) := by
    intro op
    refine compile_filterBy hcompile ⟨⟨op, op.spells_text, rfl⟩, rfl, fun _ => ⟨rfl, rfl⟩, ?_⟩
    intro hidentity
    exact absurd hidentity hfield
  have hreadable : ∀ op : Operator,
      (CompiledQuery.add ⟨q, single.kind⟩ ⟨field, op.text, value, .and⟩).isReadable = true := by
    have hequal : single = CompiledQuery.add ⟨q, single.kind⟩ ⟨field, "=", value, .and⟩ :=
      Except.ok.inj (hsingle.symm.trans (hadded .equal))
    have h := ((parse_eq_ok_iff hsingle).1 hparse).1
    rw [hequal, CompiledQuery.isReadable_add] at h
    intro op
    rw [CompiledQuery.isReadable_add]
    exact h
  refine ⟨(isRead_iff (hadded op)).2 (hreadable op), fun e => ?_⟩
  have hcondition := Clause.condition_eq field op value
  rw [matches_iff (hadded op), CompiledQuery.add, hclauses, ← hcondition]
  constructor
  · rintro ⟨-, h | ⟨group, hmem, hall⟩⟩
    · cases h
    · cases List.mem_singleton.1 hmem
      exact hall _ List.mem_cons_self
  · intro h
    refine ⟨?_, .inr ⟨_, List.mem_cons_self, fun clause hmem => ?_⟩⟩
    · have hadd := hreadable op
      rw [CompiledQuery.add, hclauses] at hadd
      exact hadd
    · cases List.mem_singleton.1 hmem
      exact h

/-- What the operators say of a property and a value, each as the one clause of a query. -/
structure ComparesLawfully (q : Query) (field : String) (value : FilterValue) (e : Entity) :
    Prop where
  isRead : ∀ op : Operator, (q.filter field op.text value).IsRead
  /-- One of the two matches, and not both. -/
  notEqual_iff : (q.filter field "!=" value).Matches e ↔ ¬(q.filter field "=" value).Matches e
  unequal_iff : (q.filter field "<>" value).Matches e ↔ (q.filter field "!=" value).Matches e
  atMost_iff : (q.filter field "<=" value).Matches e ↔
    (q.filter field "<" value).Matches e ∨ (q.filter field "=" value).Matches e
  atLeast_iff : (q.filter field ">=" value).Matches e ↔
    (q.filter field ">" value).Matches e ∨ (q.filter field "=" value).Matches e

theorem comparesLawfully {q : Query} (hclauses : q.clauses = []) {field : String}
    (hidentity : field ≠ identityField) (hkey : field ≠ keyField) {value : FilterValue}
    (hread : (q.filter field "=" value).IsRead) {e : Entity}
    (hfield : (e.get? field).isSome = true) : q.ComparesLawfully field value e := by
  obtain ⟨actual, hactual⟩ := Option.isSome_iff_exists.1 hfield
  have hmatches : ∀ op : Operator, (q.filter field op.text value).Matches e ↔
      op.accepts (Condition.orderOperand? actual value.operand) = true := by
    intro op
    have hholds : (⟨field, op, value.operand⟩ : Condition).holds e =
        op.accepts (Condition.orderOperand? actual value.operand) :=
      Condition.holds_eq hkey hactual
    rw [(matches_single_iff hclauses hidentity hread op).2 e, hholds]
  have hequal : (q.filter field "=" value).Matches e ↔ _ := hmatches .equal
  have hnotEqual : (q.filter field "!=" value).Matches e ↔ _ := hmatches .notEqual
  have hless : (q.filter field "<" value).Matches e ↔ _ := hmatches .less
  have hgreater : (q.filter field ">" value).Matches e ↔ _ := hmatches .greater
  refine ⟨fun op => (matches_single_iff hclauses hidentity hread op).1, ?_, ?_, ?_, ?_⟩
  · rw [hnotEqual, hequal, Operator.accepts_notEqual, Bool.not_eq_true', Bool.not_eq_true]
  · rw [hnotEqual, ← Operator.accepts_unequal]
    exact hmatches .unequal
  · rw [hless, hequal, ← Bool.or_eq_true, ← Operator.accepts_atMost]
    exact hmatches .atMost
  · rw [hgreater, hequal, ← Bool.or_eq_true, ← Operator.accepts_atLeast]
    exact hmatches .atLeast

/-! ## The result -/

/-- What a clause behind the others of a query changes, as the text of the query is read.  Joined
by `AND` it leaves no more entities than there were, and joined by `OR` to other clauses no fewer.
The operators of one clause on a property that is there are related as those of a total order are,
also where the values do not compare. -/
theorem added_clauses_monotone (e : Entity) :
    (∀ (q : Query) (field raw : String) (value : FilterValue), q.IsRead →
      (q.withoutClauses.filter field raw value).IsRead →
        ((q.filter field raw value).IsRead ∧
          ((q.filter field raw value).Matches e → q.Matches e)) ∧
        (q.orFilter field raw value).IsRead ∧
          (q.clauses ≠ [] → q.Matches e → (q.orFilter field raw value).Matches e)) ∧
      ∀ (q : Query) (field : String) (value : FilterValue), q.clauses = [] →
        field ≠ identityField → field ≠ keyField → (e.get? field).isSome = true →
          (q.filter field "=" value).IsRead → q.ComparesLawfully field value e :=
  ⟨fun _ _ _ _ hread hone => ⟨matches_of_filter hread hone, orFilter_matches hread hone⟩,
    fun _ _ _ hclauses hidentity hkey hfield hread =>
      comparesLawfully hclauses hidentity hkey hread hfield⟩

/-- A widget with one property. -/
def oneWidget : Entity := ⟨.root "Widget" (.number 1), [("a", .ofInt64 1)], []⟩

/-- A widget that meets the first of two clauses meets them with a third joined by `OR`, and its
number and a text, which do not compare, are not equal. -/
theorem added_clauses_monotone_widget :
    aOrB.IsRead ∧ (aOrB.withoutClauses.filter "c" "=" (.literal .null)).IsRead ∧
      aOrB.clauses ≠ [] ∧ aOrB.Matches oneWidget ∧
      (aOrB.orFilter "c" "=" (.literal .null)).Matches oneWidget ∧
      (oneWidget.get? "a").isSome = true ∧
      ((empty.ofKind "Widget").filter "a" "=" (.literal (.string "1"))).IsRead ∧
      ¬((empty.ofKind "Widget").filter "a" "=" (.literal (.string "1"))).Matches oneWidget ∧
      ((empty.ofKind "Widget").filter "a" "!=" (.literal (.string "1"))).Matches oneWidget := by
  have hread : aOrB.IsRead := (isRead_iff rfl).2 rfl
  have hone : (aOrB.withoutClauses.filter "c" "=" (.literal .null)).IsRead := (isRead_iff rfl).2 rfl
  have hmatches : aOrB.Matches oneWidget :=
    (matches_iff rfl).2 ⟨rfl, .inr ⟨_, List.mem_cons_self, by decide⟩⟩
  have hsingle : ((empty.ofKind "Widget").filter "a" "=" (.literal (.string "1"))).IsRead :=
    (isRead_iff rfl).2 rfl
  have hunequal : ¬((empty.ofKind "Widget").filter "a" "=" (.literal (.string "1"))).Matches
      oneWidget := by
    have hcondition := (matches_single_iff (q := empty.ofKind "Widget") rfl (by decide) hsingle
      .equal).2 oneWidget
    rw [show Operator.equal.text = "=" from rfl] at hcondition
    rw [hcondition]
    decide
  obtain ⟨hadded, hoperators⟩ := added_clauses_monotone oneWidget
  have hlawful := hoperators (empty.ofKind "Widget") "a" (.literal (.string "1")) rfl (by decide)
    (by decide) rfl hsingle
  obtain ⟨-, -, hstill⟩ := hadded aOrB "c" "=" (.literal .null) hread hone
  exact ⟨hread, hone, by decide, hmatches, hstill (by decide) hmatches, rfl, hsingle, hunequal,
    hlawful.notEqual_iff.2 hunequal⟩

end Query

end EntityQuery
