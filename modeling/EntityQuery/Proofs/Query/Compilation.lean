import EntityQuery.Query.Compile
import Mathlib.Data.List.Forall2
import Mathlib.Data.List.TakeWhile

/-!
# What compiling does

Compiling reads the operators and puts clauses on the identity field into the form of a key.

* Operators.  `Operator.Spells` is the language of the operators that callers may write, and
  `Operator.read_eq_ok_iff` that exactly those are read.
* Clauses.  `Clause.CompilesTo` is the clause that a clause becomes;
  `Clause.compileAll_eq_ok_iff` and `Clause.compileAll_eq_error_iff` follow a list of clauses
  up to the first that cannot be read.  `Clause.CompilesTo.self` says that a compiled clause
  becomes itself.
* Queries.  `Query.compile_specification`.
-/

namespace EntityQuery

open EntityQuery.Text

/-! ## White space -/

namespace Text

/-- A text is the white space at its two ends and what is between. -/
theorem trimChars_parts (cs : List Char) :
    ∃ before after, cs = before ++ trimChars cs ++ after ∧ (∀ c ∈ before, isBlank c = true) ∧
      ∀ c ∈ after, isBlank c = true := by
  have hfront := List.takeWhile_append_dropWhile (p := isBlank) (l := cs)
  have hback := List.takeWhile_append_dropWhile (p := isBlank)
    (l := (cs.dropWhile isBlank).reverse)
  refine ⟨cs.takeWhile isBlank, ((cs.dropWhile isBlank).reverse.takeWhile isBlank).reverse,
    ?_, fun c hc => List.mem_takeWhile_imp hc,
    fun c hc => List.mem_takeWhile_imp (List.mem_reverse.1 hc)⟩
  rw [List.append_assoc, trimChars, ← List.reverse_append, hback, List.reverse_reverse, hfront]

/-- What has no white space at its ends is what is left of it with white space around. -/
theorem trimChars_surrounded {before cs after : List Char} (hne : cs ≠ [])
    (hfirst : cs.dropWhile isBlank = cs) (hlast : cs.reverse.dropWhile isBlank = cs.reverse)
    (hbefore : ∀ c ∈ before, isBlank c = true) (hafter : ∀ c ∈ after, isBlank c = true) :
    trimChars (before ++ cs ++ after) = cs := by
  have hfront : (before ++ cs ++ after).dropWhile isBlank = cs ++ after := by
    rw [List.append_assoc, List.dropWhile_append_of_pos hbefore, List.dropWhile_append, hfirst,
      if_neg (by simpa using hne)]
  have hback : (cs ++ after).reverse.dropWhile isBlank = cs.reverse := by
    rw [List.reverse_append,
      List.dropWhile_append_of_pos fun c hc => hafter c (List.mem_reverse.1 hc), hlast]
  rw [trimChars, hfront, hback, List.reverse_reverse]

end Text

/-! ## Operators -/

namespace Operator

/-- The texts that callers may write for an operator: its characters with white space around
them, and one dollar sign or none before them with white space before it. -/
def Spells (raw : String) (op : Operator) : Prop :=
  ∃ before dollar inner after : List Char,
    raw.toList = before ++ dollar ++ inner ++ op.chars ++ after ∧
      (dollar = [] ∨ dollar = ['$']) ∧ ∀ c ∈ before ++ inner ++ after, isBlank c = true

theorem read_eq_ok_iff_trim {raw : String} {op : Operator} :
    read raw = .ok op ↔ trimChars (dropDollar (trimChars raw.toList)) = op.chars := by
  rw [← ofChars?_eq_some_iff, read]
  cases ofChars? (trimChars (dropDollar (trimChars raw.toList))) <;> simp

theorem trimChars_chars {before after : List Char} (op : Operator)
    (hbefore : ∀ c ∈ before, isBlank c = true) (hafter : ∀ c ∈ after, isBlank c = true) :
    trimChars (before ++ op.chars ++ after) = op.chars :=
  trimChars_surrounded (by cases op <;> simp [chars]) (by cases op <;> decide)
    (by cases op <;> decide) hbefore hafter

theorem trimChars_dollar {before inner after : List Char} (op : Operator)
    (hbefore : ∀ c ∈ before, isBlank c = true) (hafter : ∀ c ∈ after, isBlank c = true) :
    trimChars (before ++ ('$' :: (inner ++ op.chars)) ++ after) =
      '$' :: (inner ++ op.chars) := by
  refine trimChars_surrounded (List.cons_ne_nil _ _) rfl ?_ hbefore hafter
  have hchars : op.chars.reverse.dropWhile isBlank = op.chars.reverse := by cases op <;> decide
  rw [List.reverse_cons, List.reverse_append, List.append_assoc, List.dropWhile_append, hchars,
    if_neg (by cases op <;> simp [chars])]

/-- The operators that are read are those that the language has. -/
theorem read_eq_ok_iff {raw : String} {op : Operator} : read raw = .ok op ↔ Spells raw op := by
  rw [read_eq_ok_iff_trim]
  constructor
  · intro h
    obtain ⟨before, after, hraw, hbefore, hafter⟩ := trimChars_parts raw.toList
    obtain ⟨inner, last, hrest, hinner, hlast⟩ :=
      trimChars_parts (dropDollar (trimChars raw.toList))
    rw [h] at hrest
    have hblank : ∀ c ∈ before ++ inner ++ (last ++ after), isBlank c = true := by
      simp only [List.mem_append]
      rintro c ((hc | hc) | hc | hc)
      · exact hbefore c hc
      · exact hinner c hc
      · exact hlast c hc
      · exact hafter c hc
    by_cases hdollar : ∃ cs, trimChars raw.toList = '$' :: cs
    · obtain ⟨cs, hcs⟩ := hdollar
      rw [hcs, dropDollar] at hrest
      refine ⟨before, ['$'], inner, last ++ after, ?_, .inr rfl, hblank⟩
      rw [hraw, hcs, hrest]
      simp
    · have hnone : dropDollar (trimChars raw.toList) = trimChars raw.toList := by
        unfold dropDollar
        split
        · next cs hcs => exact absurd ⟨cs, hcs⟩ hdollar
        · rfl
      rw [hnone] at hrest
      refine ⟨before, [], inner, last ++ after, ?_, .inl rfl, hblank⟩
      rw [hraw, hrest]
      simp
  · rintro ⟨before, dollar, inner, after, hraw, hdollar, hblank⟩
    have hbefore : ∀ c ∈ before, isBlank c = true := fun c hc => hblank c (by simp [hc])
    have hinner : ∀ c ∈ inner, isBlank c = true := fun c hc => hblank c (by simp [hc])
    have hafter : ∀ c ∈ after, isBlank c = true := fun c hc => hblank c (by simp [hc])
    obtain rfl | rfl := hdollar
    · have hboth : ∀ c ∈ before ++ inner, isBlank c = true := fun c hc =>
        (List.mem_append.1 hc).elim (hbefore c) (hinner c)
      have hnone : dropDollar op.chars = op.chars := by cases op <;> rfl
      rw [hraw, List.append_nil, trimChars_chars op hboth hafter, hnone]
      simpa using @trimChars_chars [] [] op (by simp) (by simp)
    · have htrim : trimChars raw.toList = '$' :: (inner ++ op.chars) := by
        rw [hraw, ← trimChars_dollar op hbefore hafter]
        simp
      rw [htrim, dropDollar]
      simpa using @trimChars_chars inner [] op hinner (by simp)

theorem read_eq_error_iff {raw : String} {e : QueryError} :
    read raw = .error e ↔ e = .unsupportedOperator raw ∧ ¬∃ op, Spells raw op := by
  simp only [← read_eq_ok_iff]
  unfold read
  cases ofChars? (trimChars (dropDollar (trimChars raw.toList))) with
  | some op => simp
  | none => simp [eq_comm]

/-- An operator in its own spelling. -/
theorem spells_text (op : Operator) : Spells op.text op :=
  ⟨[], [], [], [], by simp [text], .inl rfl, by simp⟩

end Operator

/-! ## Clauses -/

/-- The key that a value stands for where keys of a kind are compared: a key is kept, and any
other value is the id of a key of that kind. -/
inductive FilterValue.Identifies (kind : String) : FilterValue → KeyLiteral → Prop
  | key (k : KeyLiteral) : Identifies kind (.key k) k
  | literal (v : Json) : Identifies kind (.literal v) ⟨kind, .ofJson v⟩
  | timestamp (t : Instant) : Identifies kind (.timestamp t) ⟨kind, .name t.offsetText⟩

theorem FilterValue.identifies_iff {kind : String} {value : FilterValue} {k : KeyLiteral} :
    value.Identifies kind k ↔ k = value.toKeyLiteral kind := by
  constructor
  · rintro (_ | _ | _) <;> rfl
  · rintro rfl
    cases value with
    | key k => exact .key k
    | literal v => exact .literal v
    | timestamp t => exact .timestamp t

namespace Clause

/-- Whether the operator of a clause is one of those that callers may write. -/
def HasOperator (clause : Clause) : Prop := ∃ op, Operator.Spells clause.operator op

/-- What compiling makes of a clause. -/
structure CompilesTo (kind : String) (clause compiled : Clause) : Prop where
  operator : ∃ op : Operator, op.Spells clause.operator ∧ compiled.operator = op.text
  connector : compiled.connector = clause.connector
  /-- A clause on any other field compares the same. -/
  other : clause.field ≠ identityField →
    compiled.field = clause.field ∧ compiled.value = clause.value
  /-- A clause on the identity field compares keys. -/
  identity : clause.field = identityField →
    compiled.field = keyField ∧ ∃ k, clause.value.Identifies kind k ∧ compiled.value = .key k

theorem compile_eq_ok_iff {kind : String} {clause compiled : Clause} :
    compile kind clause = .ok compiled ↔ CompilesTo kind clause compiled := by
  constructor
  · intro h
    unfold compile at h
    split at h
    · cases h
    · next op hop =>
      have hspells := Operator.read_eq_ok_iff.1 hop
      split at h
      · next hfield =>
        cases h
        exact ⟨⟨op, hspells, rfl⟩, rfl, fun hne => absurd hfield hne,
          fun _ => ⟨rfl, _, FilterValue.identifies_iff.2 rfl, rfl⟩⟩
      · next hfield =>
        cases h
        exact ⟨⟨op, hspells, rfl⟩, rfl, fun _ => ⟨rfl, rfl⟩, fun heq => absurd heq hfield⟩
  · rintro ⟨⟨op, hspells, hoperator⟩, hconnector, hother, hidentity⟩
    obtain ⟨field, operator, value, connector⟩ := compiled
    cases hoperator
    cases hconnector
    rw [compile, Operator.read_eq_ok_iff.2 hspells]
    by_cases hfield : clause.field = identityField
    · obtain ⟨rfl, k, hk, rfl⟩ := hidentity hfield
      rw [FilterValue.identifies_iff.1 hk]
      exact if_pos hfield
    · obtain ⟨rfl, rfl⟩ := hother hfield
      exact if_neg hfield

theorem compile_eq_error_iff {kind : String} {clause : Clause} {e : QueryError} :
    compile kind clause = .error e ↔
      e = .unsupportedOperator clause.operator ∧ ¬clause.HasOperator := by
  rw [HasOperator, ← Operator.read_eq_error_iff]
  unfold compile
  cases Operator.read clause.operator with
  | error e' => simp
  | ok op => by_cases hfield : clause.field = identityField <;> simp [hfield]

namespace CompilesTo

variable {kind : String} {clause compiled : Clause}

/-- No compiled clause is about the identity field. -/
theorem field_ne (h : CompilesTo kind clause compiled) : compiled.field ≠ identityField := by
  by_cases hfield : clause.field = identityField
  · rw [(h.identity hfield).1]
    decide
  · rw [(h.other hfield).1]
    exact hfield

/-- A compiled clause becomes itself. -/
theorem self (h : CompilesTo kind clause compiled) : CompilesTo kind compiled compiled := by
  obtain ⟨op, -, htext⟩ := h.operator
  exact ⟨⟨op, by rw [htext]; exact op.spells_text, htext⟩, rfl, fun _ => ⟨rfl, rfl⟩,
    fun heq => absurd heq h.field_ne⟩

end CompilesTo

theorem compileAll_eq_ok_iff {kind : String} {clauses compiled : List Clause} :
    compileAll kind clauses = .ok compiled ↔
      List.Forall₂ (CompilesTo kind) clauses compiled := by
  induction clauses generalizing compiled with
  | nil =>
    rw [List.forall₂_nil_left_iff, compileAll]
    simp [eq_comm]
  | cons clause clauses ih =>
    rw [List.forall₂_cons_left_iff, compileAll]
    simp only [← ih, ← compile_eq_ok_iff]
    cases compile kind clause with
    | error e => simp
    | ok first =>
      cases compileAll kind clauses with
      | error e => simp
      | ok rest => simp [eq_comm]

/-- A compiled clause is what became of one of the clauses. -/
theorem exists_of_mem_compiled {kind : String} {clauses compiled : List Clause}
    (h : List.Forall₂ (CompilesTo kind) clauses compiled) {clause : Clause}
    (hmem : clause ∈ compiled) : ∃ own, CompilesTo kind own clause := by
  obtain ⟨i, hi, rfl⟩ := List.getElem_of_mem hmem
  exact ⟨_, h.get (h.length_eq.symm ▸ hi) hi⟩

/-- Compiling fails at the first clause whose operator is none. -/
theorem compileAll_eq_error_iff {kind : String} {clauses : List Clause} {e : QueryError} :
    compileAll kind clauses = .error e ↔
      ∃ before clause after, clauses = before ++ clause :: after ∧
        (∀ earlier ∈ before, earlier.HasOperator) ∧ ¬clause.HasOperator ∧
        e = .unsupportedOperator clause.operator := by
  constructor
  · intro h
    induction clauses with
    | nil => cases h
    | cons clause clauses ih =>
      rw [compileAll] at h
      split at h
      · next hclause =>
        cases h
        obtain ⟨he, hspells⟩ := compile_eq_error_iff.1 hclause
        exact ⟨[], clause, clauses, rfl, by simp, hspells, he⟩
      · next own hclause =>
        split at h
        · next hrest =>
          cases h
          obtain ⟨before, first, after, rfl, hbefore, hfirst, he⟩ := ih hrest
          obtain ⟨op, hop, -⟩ := (compile_eq_ok_iff.1 hclause).operator
          exact ⟨clause :: before, first, after, rfl,
            List.forall_mem_cons.2 ⟨⟨op, hop⟩, hbefore⟩, hfirst, he⟩
        · cases h
  · rintro ⟨before, clause, after, rfl, hbefore, hclause, rfl⟩
    have hfirst : compile kind clause = .error (.unsupportedOperator clause.operator) :=
      compile_eq_error_iff.2 ⟨rfl, hclause⟩
    induction before with
    | nil => rw [List.nil_append, compileAll, hfirst]
    | cons earlier before ih =>
      obtain ⟨hearlier, hbefore⟩ := List.forall_mem_cons.1 hbefore
      rw [List.cons_append, compileAll, ih hbefore]
      cases hown : compile kind earlier with
      | ok own => rfl
      | error e => exact absurd hearlier (compile_eq_error_iff.1 hown).2

end Clause

/-! ## Queries -/

namespace Query

theorem compile_of_none {q : Query} (h : q.kind = none) :
    q.compile = .error .missingTargetKind := by
  rw [compile, h]

theorem compile_of_some {q : Query} {kind : String} (h : q.kind = some kind) :
    q.compile = (Clause.compileAll kind q.clauses).map fun clauses => ⟨{ q with clauses }, kind⟩ := by
  unfold compile
  simp only [h]
  cases Clause.compileAll kind q.clauses <;> rfl

theorem compile_eq_ok_iff {q : Query} {compiled : CompiledQuery} :
    q.compile = .ok compiled ↔
      q.kind = some compiled.kind ∧
        ∃ clauses, compiled.query = { q with clauses } ∧
          List.Forall₂ (Clause.CompilesTo compiled.kind) q.clauses clauses := by
  simp only [← Clause.compileAll_eq_ok_iff]
  obtain hkind | ⟨kind, hkind⟩ := Option.eq_none_or_eq_some q.kind
  · simp [compile_of_none hkind, hkind]
  · rw [compile_of_some hkind]
    constructor
    · intro h
      cases hall : Clause.compileAll kind q.clauses with
      | error e =>
        rw [hall] at h
        cases h
      | ok clauses =>
        rw [hall] at h
        cases h
        exact ⟨hkind, clauses, rfl, hall⟩
    · rintro ⟨hsame, clauses, hquery, hall⟩
      cases hkind.symm.trans hsame
      rw [hall, Except.map, ← hquery]

/-- A query that does not compile has no kind, or a first clause without an operator. -/
theorem compile_eq_error_iff {q : Query} {e : QueryError} :
    q.compile = .error e ↔
      q.kind = none ∧ e = .missingTargetKind ∨
      q.kind ≠ none ∧ ∃ before clause after, q.clauses = before ++ clause :: after ∧
        (∀ earlier ∈ before, earlier.HasOperator) ∧ ¬clause.HasOperator ∧
        e = .unsupportedOperator clause.operator := by
  obtain hkind | ⟨kind, hkind⟩ := Option.eq_none_or_eq_some q.kind
  · simp [compile_of_none hkind, hkind, eq_comm]
  · have herror : q.compile = .error e ↔ Clause.compileAll kind q.clauses = .error e := by
      rw [compile_of_some hkind]
      cases Clause.compileAll kind q.clauses <;> simp [Except.map]
    rw [herror, Clause.compileAll_eq_error_iff]
    simp [hkind]

/-- A query compiles if it has a kind and each clause an operator. -/
theorem exists_compile_iff {q : Query} :
    (∃ compiled, q.compile = .ok compiled) ↔
      q.kind ≠ none ∧ ∀ clause ∈ q.clauses, clause.HasOperator := by
  constructor
  · rintro ⟨compiled, h⟩
    obtain ⟨hkind, clauses, -, hall⟩ := compile_eq_ok_iff.1 h
    refine ⟨by simp [hkind], fun clause hmem => ?_⟩
    obtain ⟨i, hi, rfl⟩ := List.getElem_of_mem hmem
    obtain ⟨op, hop, -⟩ := (hall.get hi (hall.length_eq ▸ hi)).operator
    exact ⟨op, hop⟩
  · rintro ⟨hkind, hall⟩
    cases h : q.compile with
    | ok compiled => exact ⟨compiled, rfl⟩
    | error e =>
      obtain ⟨hnone, -⟩ | ⟨-, before, clause, after, hclauses, -, hnone, -⟩ :=
        compile_eq_error_iff.1 h
      · exact absurd hnone hkind
      · exact absurd (hall clause (by simp [hclauses])) hnone

/-- A compiled query compiles to itself. -/
theorem compile_compiled {q : Query} {compiled : CompiledQuery} (h : q.compile = .ok compiled) :
    compiled.query.compile = .ok compiled := by
  obtain ⟨hkind, clauses, hquery, hall⟩ := compile_eq_ok_iff.1 h
  have hself : List.Forall₂ (Clause.CompilesTo compiled.kind) clauses clauses := by
    refine List.forall₂_same.2 fun clause hmem => ?_
    obtain ⟨own, hown⟩ := Clause.exists_of_mem_compiled hall hmem
    exact hown.self
  exact compile_eq_ok_iff.2 ⟨by rw [hquery]; exact hkind, clauses, by rw [hquery],
    by rw [hquery]; exact hself⟩

/-- Compiling asks for the kind first and then for the operator of each clause, in order.  If it
succeeds it changes the clauses only, one by one, and a second time it changes nothing. -/
theorem compile_specification (q : Query) :
    (q.compile = .error .missingTargetKind ↔ q.kind = none) ∧
    (∀ raw, q.compile = .error (.unsupportedOperator raw) ↔
      q.kind ≠ none ∧ ∃ before clause after, q.clauses = before ++ clause :: after ∧
        (∀ earlier ∈ before, earlier.HasOperator) ∧ ¬clause.HasOperator ∧
        raw = clause.operator) ∧
    ((∃ compiled, q.compile = .ok compiled) ↔
      q.kind ≠ none ∧ ∀ clause ∈ q.clauses, clause.HasOperator) ∧
    ∀ compiled, q.compile = .ok compiled →
      q.kind = some compiled.kind ∧
      (∃ clauses, compiled.query = { q with clauses } ∧
        List.Forall₂ (Clause.CompilesTo compiled.kind) q.clauses clauses) ∧
      (∀ clause ∈ compiled.query.clauses, clause.field ≠ identityField) ∧
      compiled.query.compile = .ok compiled := by
  refine ⟨by simp [compile_eq_error_iff], fun raw => by simp [compile_eq_error_iff],
    exists_compile_iff, fun compiled h => ?_⟩
  obtain ⟨hkind, clauses, hquery, hall⟩ := compile_eq_ok_iff.1 h
  refine ⟨hkind, ⟨clauses, hquery, hall⟩, ?_, compile_compiled h⟩
  rw [hquery]
  intro clause hmem
  obtain ⟨own, hown⟩ := Clause.exists_of_mem_compiled hall hmem
  exact hown.field_ne

/-- Two clauses, of which one has a dollar sign and the identity field. -/
theorem compile_specification_widgets :
    let q := ((empty.ofKind "Widget").filter "id" "\u3000$\t>= " (.literal (.string " 7 "))).orFilter
      "name" "<>" (.literal (.string "id"))
    let compiled : CompiledQuery := ⟨{ q with
      clauses := [⟨"__key__", ">=", .key ⟨"Widget", .number 7⟩, .and⟩,
        ⟨"name", "<>", .literal (.string "id"), .or⟩] }, "Widget"⟩
    q.compile = .ok compiled ∧ compiled.query.compile = .ok compiled := by
  intro q compiled
  have h : q.compile = .ok compiled := by rfl
  exact ⟨h, ((compile_specification q).2.2.2 compiled h).2.2.2⟩

end Query

end EntityQuery
