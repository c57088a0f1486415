import EntityQuery.Proofs.Gql.Readers
import EntityQuery.Proofs.Gql.Written
import EntityQuery.Proofs.Time.ReadBack
import Mathlib.Data.List.SplitBy

/-!
# What the text of a query means

The text of a compiled query is read as one statement, `CompiledQuery.statement`, or it is
refused.  `CompiledQuery.isReadable` says which: it is refused only for a timestamp of which
the year has not four digits, and for a count beyond the signed integers of 64 bits.

* Values.  `startValue_literal` reads a literal, in whatever arrays it stands, and
  `outcome_readOperand` any value.
* Clauses.  `Clause.groups` splits clauses before those that are joined by `OR`, and
  `outcome_readFilter` reads them so.
* Queries.  `CompiledQuery.toOption_parse_gql` is the result.
-/

namespace EntityQuery

/-! ## The meaning of clauses -/

namespace FilterValue

/-- The value that the query text of a value is read as. -/
def operand : FilterValue → Operand
  | .literal v => .value v.reread
  | .timestamp t => .timestamp t
  | .key k => .key [(k.kind, k.id)]

/-- Whether the query text of a value is read at all. -/
def isReadable : FilterValue → Bool
  | .timestamp t => t.hasFourDigitYear
  | _ => true

end FilterValue

namespace Clause

/-- The condition that the query text of a clause is read as. -/
def condition (clause : Clause) : Condition := ⟨clause.field, clause.op, clause.value.operand⟩

/-- The clauses in groups: a clause after the first that is joined by `OR` begins a new one. -/
def groups (clauses : List Clause) : List (List Clause) :=
  clauses.splitBy fun _ next => next.connector == .and

/-- What the loop that splits a list was given only adds to the front of what it makes. -/
theorem splitBy_loop_eq {α : Type} (r : α → α → Bool) (as : List α) (b : α) (group : List α)
    (done : List (List α)) :
    ∃ first more, List.splitBy.loop r as b [] [] = first :: more ∧
      List.splitBy.loop r as b group done = done.reverse ++ (group.reverse ++ first) :: more := by
  induction as generalizing b group done with
  | nil => exact ⟨[b], [], by simp [List.splitBy.loop], by simp [List.splitBy.loop]⟩
  | cons a as ih =>
    simp only [List.splitBy.loop]
    cases r b a with
    | true =>
      obtain ⟨first, more, hloop, hgroup⟩ := ih a (b :: group) done
      obtain ⟨first', more', hloop', hone⟩ := ih a [b] []
      rw [hloop] at hloop'
      cases hloop'
      exact ⟨b :: first, more, by simpa using hone, by simpa using hgroup⟩
    | false =>
      obtain ⟨first, more, hloop, hgroup⟩ := ih a [] ((b :: group).reverse :: done)
      obtain ⟨first', more', hloop', hone⟩ := ih a [] [[b]]
      rw [hloop] at hloop'
      cases hloop'
      exact ⟨[b], first :: more, by simpa using hone, by simpa using hgroup⟩

section

variable {α : Type} {p : α → Bool} {second : α}

/-- An element with the property stays with the one before it. -/
theorem splitBy_with (first : α) (h : p second = true) (rest : List α) :
    ∃ group more, (second :: rest).splitBy (fun _ next => p next) = group :: more ∧
      (first :: second :: rest).splitBy (fun _ next => p next) = (first :: group) :: more := by
  obtain ⟨group, more, hgroups, hfirst⟩ :=
    splitBy_loop_eq (fun _ next => p next) rest second [first] []
  refine ⟨group, more, hgroups, ?_⟩
  rw [List.splitBy, List.splitBy.loop, h]
  exact hfirst

/-- An element without the property begins a group. -/
theorem splitBy_apart (first : α) (h : p second = false) (rest : List α) :
    (first :: second :: rest).splitBy (fun _ next => p next) =
      [first] :: (second :: rest).splitBy (fun _ next => p next) := by
  obtain ⟨group, more, hgroups, hfirst⟩ :=
    splitBy_loop_eq (fun _ next => p next) rest second [] [[first]]
  rw [List.splitBy, List.splitBy, hgroups, List.splitBy.loop, h]
  exact hfirst

end

/-- The groups of clauses of which the second is joined to the first by `AND`. -/
theorem groups_and (first : Clause) {second : Clause} (h : second.connector = .and)
    (rest : List Clause) :
    ∃ group more, groups (second :: rest) = group :: more ∧
      groups (first :: second :: rest) = (first :: group) :: more :=
  splitBy_with (p := fun clause : Clause => clause.connector == .and) first (by rw [h]; rfl) rest

/-- The groups of clauses of which the second is joined to the first by `OR`. -/
theorem groups_or (first : Clause) {second : Clause} (h : second.connector = .or)
    (rest : List Clause) :
    groups (first :: second :: rest) = [first] :: groups (second :: rest) :=
  splitBy_apart (p := fun clause : Clause => clause.connector == .and) first (by rw [h]; rfl) rest

end Clause

namespace CompiledQuery

/-- Whether a count is a signed integer of 64 bits. -/
def countIsReadable : Option UInt64 → Bool
  | none => true
  | some n => n.toNat ≤ 9223372036854775807

/-- Whether the text of the query is read at all. -/
def isReadable (compiled : CompiledQuery) : Bool :=
  compiled.query.clauses.all (·.value.isReadable) && countIsReadable compiled.query.limit &&
    countIsReadable compiled.query.offset

/-- The statement that the text of the query is read as. -/
def statement (compiled : CompiledQuery) : Statement where
  projection := compiled.query.projections
  kind := compiled.kind
  groups := (Clause.groups compiled.query.clauses).map (·.map Clause.condition)
  orders := compiled.query.orders
  limit := compiled.query.limit
  offset := compiled.query.offset

end CompiledQuery

namespace Gql

/-! ## Values -/

theorem literalTokens_head (v : Json) :
    ∃ token rest, literalTokens v = token :: rest ∧ token ≠ .closeParen ∧
      nextIs .key (token :: rest) = false ∧ nextIs .datetime (token :: rest) = false := by
  cases v with
  | null => exact ⟨_, _, rfl, by decide, by decide, by decide⟩
  | bool b => cases b <;> exact ⟨_, _, rfl, by decide, by decide, by decide⟩
  | array items =>
    exact ⟨_, _, rfl, by decide, show Keyword.key.isWord "ARRAY" = false by decide,
      show Keyword.datetime.isWord "ARRAY" = false by decide⟩
  | number | string | object => exact ⟨_, _, rfl, nofun, rfl, rfl⟩

/-- An array that is not empty begins with its first value. -/
theorem startValue_array {tokens : List Token} {stack : List (List Json)} {v : Json} :
    startValue (.word "ARRAY" :: .openParen :: (literalTokens v ++ tokens)) stack =
      startValue (literalTokens v ++ tokens) ([] :: stack) := by
  obtain ⟨token, rest, htokens, hclose, -⟩ := literalTokens_head v
  rw [htokens, List.cons_append, startValue, if_pos (by decide)]
  intro _ heq
  cases heq
  exact hclose rfl

/-- A word that stands for a value. -/
theorem startValue_word {w : String} {v : Json} (harray : Keyword.array.isWord w = false)
    (hvalue : wordValue? w = some v) (rest : List Token) (stack : List (List Json)) :
    startValue (.word w :: rest) stack = finishValue v rest stack := by
  unfold startValue
  rw [harray, hvalue]
  rfl

theorem wordValue?_null : wordValue? "NULL" = some .null := by
  have htrue : Keyword.true.isWord "NULL" = false := by decide
  have hfalse : Keyword.false.isWord "NULL" = false := by decide
  have hnull : Keyword.null.isWord "NULL" = true := by decide
  simp [wordValue?, htrue, hfalse, hnull]

theorem wordValue?_bool (b : Bool) :
    wordValue? (if b then "true" else "false") = some (.bool b) := by
  have htrue : Keyword.true.isWord "false" = false := by decide
  have hfalse : Keyword.false.isWord "false" = true := by decide
  cases b with
  | true => rfl
  | false => simp [wordValue?, htrue, hfalse]

mutual

/-- A literal is read, and what follows it is left. -/
theorem startValue_literal : ∀ (v : Json) (rest : List Token) (stack : List (List Json)),
    startValue (literalTokens v ++ rest) stack = finishValue v.reread rest stack
  | .null, rest, stack => startValue_word (by decide) wordValue?_null rest stack
  | .bool b, rest, stack =>
    startValue_word (by cases b <;> decide) (wordValue?_bool b) rest stack
  | .number n, rest, stack => rfl
  | .string s, rest, stack => rfl
  | .object members, rest, stack => rfl
  | .array [], rest, stack => rfl
  | .array (item :: items), rest, stack => by
    have hitems := startValue_items (item :: items) nofun [] rest stack
    have htokens : literalTokens (.array (item :: items)) ++ rest =
        .word "ARRAY" :: .openParen :: (literalTokens item ++
          ((itemTokens items).flatMap (Token.comma :: ·) ++ .closeParen :: rest)) := by
      rw [literalTokens, itemTokens, separated_cons]
      simp
    rw [itemTokens, separated_cons, List.append_assoc] at hitems
    rw [htokens, startValue_array, hitems]
    rfl

/-- Literals between commas are read up to the parenthesis that closes their array. -/
theorem startValue_items : ∀ (items : List Json), items ≠ [] → ∀ (done : List Json)
    (rest : List Token) (stack : List (List Json)),
    startValue (separated (itemTokens items) ++ .closeParen :: rest) (done :: stack) =
      finishValue (.array (done.reverse ++ Json.rereadItems items)) rest stack
  | [], h, _, _, _ => absurd rfl h
  | [item], _, done, rest, stack => by
    rw [itemTokens, itemTokens, separated, startValue_literal item]
    simp [finishValue, Json.rereadItems]
  | item :: next :: items, _, done, rest, stack => by
    have hitems := startValue_items (next :: items) nofun (item.reread :: done) rest stack
    have hreread : (item.reread :: done).reverse ++ Json.rereadItems (next :: items) =
        done.reverse ++ Json.rereadItems (item :: next :: items) := by
      simp [Json.rereadItems]
    rw [hreread] at hitems
    rw [itemTokens, itemTokens, separated, List.append_assoc, startValue_literal item,
      List.cons_append, finishValue]
    · exact hitems
    · simp

end

theorem outcome_readName (name : String) (rest : List Token) :
    outcome (readName (nameToken name :: rest)) = some (name, rest) := by
  unfold nameToken
  by_cases h : isPlainName name.toList = true
  · rw [if_pos h]
    rfl
  · rw [if_neg h]
    rfl

theorem outcome_readKeyId (id : KeyId) (rest : List Token) :
    outcome (readKeyId (keyIdToken id :: rest)) = some (id, rest) := by
  cases id with
  | number id =>
    rw [keyIdToken, readKeyId, JsonNumber.int64?_ofInt64]
    rfl
  | name s => rfl

theorem outcome_readPath_key (literal : KeyLiteral) (rest : List Token) :
    outcome (readPath (.openParen :: nameToken literal.kind :: .comma :: keyIdToken literal.id ::
      .closeParen :: rest)) = some ([(literal.kind, literal.id)], rest) := by
  have helement : outcome (readElement (nameToken literal.kind :: .comma ::
      keyIdToken literal.id :: .closeParen :: rest)) =
        some ((literal.kind, literal.id), .closeParen :: rest) := by
    simp only [outcome_readElement, outcome_readName, Option.bind_some, remaining_expect,
      outcome_readKeyId]
  have hnone : outcome (repeated nextElement (.closeParen :: rest)) =
      some ([], .closeParen :: rest) := by
    rw [outcome_repeated]
    rfl
  simp only [outcome_readPath, remaining_expect, Option.bind_some, helement, hnone]

theorem outcome_readStamp_text (t : Instant) (rest : List Token) :
    outcome (readStamp (.openParen :: .text (t.text .fewest) :: .closeParen :: rest)) =
      if t.hasFourDigitYear then some (t, rest) else none := by
  have htext : outcome (readStampText (.text (t.text .fewest) :: .closeParen :: rest)) =
      some (t.text .fewest, .closeParen :: rest) := rfl
  have hread : Instant.read? (t.text .fewest).toList =
      if t.hasFourDigitYear then some t else none := by
    rw [Instant.text, String.toList_ofList, Instant.read?_chars]
  simp only [outcome_readStamp, remaining_expect, Option.bind_some, htext, hread]
  split <;> rfl

/-- The value of a clause is read, and what follows it is left. -/
theorem outcome_readOperand (value : FilterValue) (rest : List Token) :
    outcome (readOperand (valueTokens value ++ rest)) =
      if value.isReadable then some (value.operand, rest) else none := by
  cases value with
  | literal v =>
    obtain ⟨token, more, htokens, -, hkey, hdatetime⟩ := literalTokens_head v
    have hnext : ∀ keyword, nextIs keyword (token :: more) = false →
        eat keyword (literalTokens v ++ rest) = none := by
      intro keyword h
      rw [htokens]
      apply eat_eq_none
      cases token <;> exact h
    show outcome (readOperand (literalTokens v ++ rest)) = some (.value v.reread, rest)
    rw [outcome_readOperand_value (hnext _ hkey) (hnext _ hdatetime), outcome_readValue,
      startValue_literal, finishValue]
    rfl
  | timestamp t =>
    show outcome (readOperand (.word Keyword.datetime.text :: .openParen :: .text (t.text .fewest) ::
      .closeParen :: rest)) = if t.hasFourDigitYear then some (.timestamp t, rest) else none
    rw [outcome_readOperand_timestamp (eat_eq_none rfl) (eat_text .datetime _),
      outcome_readStamp_text]
    split <;> rfl
  | key k =>
    show outcome (readOperand (.word Keyword.key.text :: .openParen :: nameToken k.kind :: .comma ::
      keyIdToken k.id :: .closeParen :: rest)) = some (.key [(k.kind, k.id)], rest)
    rw [outcome_readOperand_key (eat_text .key _), outcome_readPath_key]
    rfl

/-! ## Clauses -/

/-- A clause is read, and what follows it is left. -/
theorem outcome_readCondition_clause (clause : Clause) (rest : List Token) :
    outcome (readCondition (clauseTokens clause ++ rest)) =
      if clause.value.isReadable then some (clause.condition, rest) else none := by
  have hop : ∀ more, outcome (readOperator (.operator clause.op :: more)) =
      some (clause.op, more) := fun _ => rfl
  show outcome (readCondition (nameToken clause.field :: .operator clause.op ::
    (valueTokens clause.value ++ rest))) = _
  simp only [outcome_readCondition, outcome_readName, Option.bind_some, hop, outcome_readOperand]
  split <;> rfl

/-- A clause behind its connector is read, and what follows it is left. -/
theorem taken_nextCondition_clause (clause : Clause) (rest : List Token) :
    taken (nextCondition (joinedTokens clause ++ rest)) =
      if clause.value.isReadable then
        some (some ((clause.connector, clause.condition), rest))
      else none := by
  rw [joinedTokens, List.cons_append]
  cases hconnector : clause.connector with
  | and =>
    rw [connectorKeyword, taken_nextCondition_and (eat_text .and _),
      outcome_readCondition_clause]
    split <;> rfl
  | or =>
    rw [connectorKeyword, taken_nextCondition_or (eat_eq_none (by rfl)) (eat_text .or _),
      outcome_readCondition_clause]
    split <;> rfl

/-- The parser groups conditions by splitting before each one that is joined by `OR`. -/
theorem groupConditions_map {α : Type} (connector : α → Connector) (condition : α → Condition)
    (first : α) (rest : List α) :
    groupConditions (condition first) (rest.map fun x => (connector x, condition x)) =
      ((first :: rest).splitBy fun _ next => connector next == .and).map (·.map condition) := by
  induction rest generalizing first with
  | nil => rfl
  | cons second rest ih =>
    rw [List.map_cons]
    cases hconnector : connector second with
    | or =>
      rw [groupConditions, ih, Clause.splitBy_apart (p := fun x => connector x == .and) first
        (by rw [hconnector]; rfl) rest]
      rfl
    | and =>
      obtain ⟨group, more, hgroups, hfirst⟩ := Clause.splitBy_with
        (p := fun x => connector x == .and) first (by rw [hconnector]; rfl) rest
      rw [groupConditions, ih, hgroups, hfirst]
      rfl

/-- The parser groups conditions as the clauses are grouped. -/
theorem groupConditions_eq (first : Clause) (rest : List Clause) :
    groupConditions first.condition (rest.map fun clause => (clause.connector, clause.condition)) =
      (Clause.groups (first :: rest)).map (·.map Clause.condition) :=
  groupConditions_map Clause.connector Clause.condition first rest

/-- The filter is read, and what follows it is left. -/
theorem outcome_readFilter (clauses : List Clause) {rest : List Token}
    (hwhere : nextIs .where rest = false) (hand : nextIs .and rest = false)
    (hor : nextIs .or rest = false) :
    outcome (readFilter (filterTokens clauses ++ rest)) =
      if clauses.all (·.value.isReadable) then
        some ((Clause.groups clauses).map (·.map Clause.condition), rest)
      else none := by
  cases clauses with
  | nil => exact outcome_readFilter_none (eat_eq_none hwhere)
  | cons first others =>
    have hstop := taken_nextCondition_none (eat_eq_none hand) (eat_eq_none hor)
    have hloop := outcome_repeated_pieces taken_nextCondition_clause hstop others
    rw [filterTokens, List.cons_append, List.cons_append, List.append_assoc]
    show outcome (readFilter (.word Keyword.where.text :: _)) = _
    rw [outcome_readFilter_some (eat_text .where _), outcome_readCondition_clause, List.all_cons]
    cases first.value.isReadable with
    | false => rfl
    | true =>
      simp only [if_true, Option.bind_some, hloop, Bool.true_and]
      cases others.all (·.value.isReadable) with
      | false => rfl
      | true =>
        rw [← groupConditions_eq]
        rfl

/-! ## Fields and counts -/

/-- The fields to return are read, and what follows them is left. -/
theorem outcome_readProjection (fields : List String) (rest : List Token) :
    outcome (readProjection (projectionTokens fields ++ .word "FROM" :: rest)) =
      some (fields, .word "FROM" :: rest) := by
  cases fields with
  | nil => rfl
  | cons first others =>
    have hitem : ∀ name more, taken (nextName (([.comma, nameToken name] : List Token) ++ more)) =
        if true then some (some (name, more)) else none := by
      intro name more
      simp only [List.cons_append, List.nil_append, taken_nextName, outcome_readName]
      rfl
    have hstop : taken (nextName (.word "FROM" :: rest)) = some none := rfl
    have hloop := outcome_repeated_pieces hitem hstop others
    have hstar : nameToken first ≠ .star := by
      intro heq
      rw [nameToken] at heq
      split at heq <;> cases heq
    have htokens : projectionTokens (first :: others) ++ .word "FROM" :: rest =
        nameToken first :: (others.flatMap (fun name => [.comma, nameToken name]) ++
          .word "FROM" :: rest) := by
      rw [projectionTokens, if_neg (by simp), List.map_cons, separated_cons, List.flatMap_map]
      rfl
    rw [htokens, outcome_readProjection_names hstar, outcome_readName]
    simp only [Option.bind_some, hloop]
    simp

/-- A field to sort by is read, and what follows it is left. -/
theorem outcome_readOrder_spec (spec : SortSpec) (rest : List Token) :
    outcome (readOrder (orderTokens spec ++ rest)) = some (spec, rest) := by
  have hdirection : ∀ direction : Direction,
      (readDirection (.word (directionKeyword direction).text :: rest)).1 = direction ∧
        (readDirection (.word (directionKeyword direction).text :: rest)).2.1 = rest := by
    intro direction
    cases direction <;> exact ⟨rfl, rfl⟩
  show outcome (readOrder (nameToken spec.field ::
    .word (directionKeyword spec.direction).text :: rest)) = _
  simp only [outcome_readOrder, outcome_readName, Option.bind_some]
  rw [(hdirection spec.direction).1, (hdirection spec.direction).2]

/-- The fields to sort by are read, and what follows them is left. -/
theorem outcome_readOrders (total : Nat) (specs : List SortSpec) {rest : List Token}
    (horder : nextIs .order rest = false) (hcomma : ∀ more, rest ≠ .comma :: more) :
    outcome (readOrders total (ordersTokens specs ++ rest)) = some (specs, rest) := by
  cases specs with
  | nil => exact outcome_readOrders_none total (eat_eq_none horder)
  | cons first others =>
    have hitem : ∀ spec more, taken (nextOrder ((.comma :: orderTokens spec) ++ more)) =
        if true then some (some (spec, more)) else none := by
      intro spec more
      simp only [List.cons_append, taken_nextOrder, outcome_readOrder_spec]
      rfl
    have hstop : taken (nextOrder rest) = some none := by
      unfold nextOrder
      split
      · next more => exact absurd rfl (hcomma more)
      · rfl
    have hloop := outcome_repeated_pieces hitem hstop others
    have htokens : ordersTokens (first :: others) ++ rest =
        .word Keyword.order.text :: .word Keyword.by.text :: (orderTokens first ++
          (others.flatMap (fun spec => .comma :: orderTokens spec) ++ rest)) := by
      rw [ordersTokens, if_neg (by simp), List.map_cons, separated_cons, List.flatMap_map]
      simp [Keyword.text]
    rw [htokens, outcome_readOrders_some total (eat_text .order _)]
    simp only [remaining_expectKeyword, Option.bind_some, outcome_readOrder_spec, hloop]
    simp

/-- A count is read, and what follows it is left. -/
theorem outcome_readLimit (keyword : Keyword) (count : Option UInt64) {rest : List Token}
    (h : nextIs keyword rest = false) :
    outcome (readLimit keyword (countTokens keyword count ++ rest)) =
      if CompiledQuery.countIsReadable count then some (count, rest) else none := by
  cases count with
  | none => exact outcome_readLimit_none (eat_eq_none h)
  | some n =>
    have hcount : outcome (readCount (.number (JsonNumber.ofUInt64 n).reread :: rest)) =
        (JsonNumber.ofUInt64 n).reread.uint64?.map (·, rest) := by
      rw [readCount]
      cases (JsonNumber.ofUInt64 n).reread.uint64? <;> rfl
    show outcome (readLimit keyword (.word keyword.text ::
      .number (JsonNumber.ofUInt64 n).reread :: rest)) = _
    rw [outcome_readLimit_some (eat_text keyword _), hcount, JsonNumber.uint64?_reread]
    by_cases hn : n.toNat ≤ 9223372036854775807
    · simp [CompiledQuery.countIsReadable, hn]
    · simp [CompiledQuery.countIsReadable, hn]

/-- No part of a query is taken for one that stands before it. -/
theorem nextIs_parts (orders : List SortSpec) (limit offset : Option UInt64) :
    nextIs .limit (countTokens .offset offset) = false ∧
    nextIs .order (countTokens .limit limit ++ countTokens .offset offset) = false ∧
    (∀ more, countTokens .limit limit ++ countTokens .offset offset ≠ .comma :: more) ∧
    ∀ keyword ∈ [Keyword.where, .and, .or], nextIs keyword
      (ordersTokens orders ++ (countTokens .limit limit ++ countTokens .offset offset)) = false := by
  refine ⟨?_, ?_, ?_, ?_⟩
  · cases offset <;> rfl
  · cases limit <;> cases offset <;> rfl
  · cases limit <;> cases offset <;> nofun
  · intro keyword hmem
    simp only [List.mem_cons, List.not_mem_nil, or_false] at hmem
    cases orders with
    | cons => rcases hmem with rfl | rfl | rfl <;> rfl
    | nil =>
      cases limit <;> cases offset <;> rcases hmem with rfl | rfl | rfl <;> rfl

end Gql

/-! ## Queries -/

namespace CompiledQuery

open Gql

/-- The text of a query is read as its statement, or it is refused. -/
theorem toOption_parse_gql {compiled : CompiledQuery} (h : compiled.IsWritten) :
    (parse compiled.gql).toOption =
      if compiled.isReadable then some compiled.statement else none := by
  have hparse : parse compiled.gql = readStatement compiled.tokens := by
    rw [parse, tokenize_gql h]
  obtain ⟨q, kind⟩ := compiled
  obtain ⟨hlimit, horder, hcomma, hfilter⟩ := nextIs_parts q.orders q.limit q.offset
  have hselect : remaining (expectKeyword (tokens ⟨q, kind⟩).length .select (tokens ⟨q, kind⟩)) =
      some (projectionTokens q.projections ++ .word "FROM" :: nameToken kind ::
        (filterTokens q.clauses ++ (ordersTokens q.orders ++
          (countTokens .limit q.limit ++ countTokens .offset q.offset)))) :=
    remaining_expectKeyword _ .select _
  have hgroups := outcome_readFilter q.clauses (hfilter .where (by simp)) (hfilter .and (by simp))
    (hfilter .or (by simp))
  have horders := outcome_readOrders (tokens ⟨q, kind⟩).length q.orders horder hcomma
  have hoffset : outcome (readLimit .offset (countTokens .offset q.offset)) =
      if countIsReadable q.offset then some (q.offset, []) else none := by
    have hread := @outcome_readLimit .offset q.offset [] rfl
    rwa [List.append_nil] at hread
  have hfrom : ∀ total rest, remaining (expectKeyword total .from (.word "FROM" :: rest)) =
      some rest := fun total => remaining_expectKeyword total .from
  rw [hparse, toOption_readStatement, hselect]
  simp only [Option.bind_some, outcome_readProjection, hfrom, outcome_readName, hgroups, isReadable]
  by_cases hclauses : q.clauses.all (·.value.isReadable) = true
  · simp only [hclauses, if_true, Option.bind_some, horders,
      outcome_readLimit .limit q.limit hlimit, Bool.true_and]
    by_cases hcount : countIsReadable q.limit = true
    · simp only [hcount, if_true, Option.bind_some, hoffset, Bool.true_and]
      by_cases hstart : countIsReadable q.offset = true
      · simp only [hstart, if_true]
        rfl
      · simp only [hstart]
        rfl
    · simp only [hcount]
      rfl
  · simp only [hclauses]
    rfl

/-- The statement of a query that is read. -/
theorem parse_gql {compiled : CompiledQuery} (h : compiled.IsWritten)
    (hreadable : compiled.isReadable = true) : parse compiled.gql = .ok compiled.statement := by
  have hparse := toOption_parse_gql h
  rw [hreadable, if_pos rfl] at hparse
  cases hread : parse compiled.gql with
  | error e => rw [hread] at hparse; cases hparse
  | ok s =>
    rw [hread] at hparse
    exact congrArg Except.ok (Option.some.inj hparse)

end CompiledQuery

end EntityQuery
