import EntityQuery.Gql.Parser

/-!
# What readers take and leave

The readers of the parser carry proofs that they leave fewer tokens.  `outcome`,
`taken` and `remaining` forget those, so that what a reader does on given tokens can be
computed: there is one equation for each reader, in terms of the readers that it calls.

* Forgetting.  `map_toOption_bind` follows one step of a reader.
* Loops.  `outcome_repeated` unfolds a loop once, and `outcome_repeated_pieces` runs it
  over a list of pieces.
* Readers.  `outcome_readCondition`, `outcome_readFilter`, `outcome_readOrders`,
  `outcome_readProjection`, `outcome_readLimit` and `toOption_readStatement`.
-/

namespace EntityQuery.Gql

/-! ## Forgetting the proofs -/

section Forget

variable {α : Type} {p : List Token → Prop}

/-- What a reader gives back and the tokens that it leaves, if it does not fail. -/
def outcome (r : Except SyntaxError (α × { rest : List Token // p rest })) :
    Option (α × List Token) :=
  r.toOption.map fun x => (x.1, x.2.1)

/-- What the reader of an item that may not be there gives back, if it does not fail. -/
def taken (r : Except SyntaxError (Option (α × { rest : List Token // p rest }))) :
    Option (Option (α × List Token)) :=
  r.toOption.map (Option.map fun x => (x.1, x.2.1))

/-- The tokens that a reader leaves, if it does not fail. -/
def remaining (r : Except SyntaxError { rest : List Token // p rest }) : Option (List Token) :=
  r.toOption.map (·.1)

end Forget

/-- One step of a reader: what follows is only asked about what the step leaves of itself. -/
theorem map_toOption_bind {ε α α' β β' : Type} {r : Except ε α} {f : α → Except ε β}
    {j : α → α'} {k : β → β'} {g : α' → Option β'}
    (h : ∀ x, (f x).toOption.map k = g (j x)) :
    (r >>= f).toOption.map k = (r.toOption.map j).bind g := by
  cases r with
  | error e => rfl
  | ok x => exact h x

/-! ## Loops -/

section Loops

variable {α β : Type}
  {item : (tokens : List Token) → Except SyntaxError (Option (α × Rest tokens))}

/-- The loop takes one item, if there is one, and goes on. -/
theorem outcome_repeated (tokens : List Token) :
    outcome (repeated item tokens) = (taken (item tokens)).bind fun
      | none => some ([], tokens)
      | some (x, rest) => (outcome (repeated item rest)).map fun (xs, last) => (x :: xs, last) := by
  rw [repeated]
  split
  · next h => rw [h]; rfl
  · next h => rw [h]; rfl
  · next x rest h =>
    rw [h]
    show _ = (outcome (repeated item rest.1)).map _
    split
    · next hrest => rw [hrest]; rfl
    · next hrest => rw [hrest]; rfl

/-- A loop over pieces of which each gives an item, or fails: it gives all the items if no
piece fails. -/
theorem outcome_repeated_pieces {piece : β → List Token} {succeeds : β → Bool} {value : β → α}
    {rest : List Token}
    (hitem : ∀ x more, taken (item (piece x ++ more)) =
      if succeeds x then some (some (value x, more)) else none)
    (hstop : taken (item rest) = some none) (xs : List β) :
    outcome (repeated item (xs.flatMap piece ++ rest)) =
      if xs.all succeeds then some (xs.map value, rest) else none := by
  induction xs with
  | nil =>
    rw [outcome_repeated, List.flatMap_nil, List.nil_append, hstop]
    rfl
  | cons x xs ih =>
    rw [outcome_repeated, List.flatMap_cons, List.append_assoc, hitem, List.all_cons]
    cases succeeds x with
    | false => rfl
    | true =>
      show (outcome (repeated item (xs.flatMap piece ++ rest))).map _ = _
      rw [ih, Bool.true_and]
      cases xs.all succeeds <;> rfl

end Loops

/-! ## Words -/

theorem eat_eq_none {keyword : Keyword} {tokens : List Token}
    (h : nextIs keyword tokens = false) : eat keyword tokens = none := by
  unfold eat
  split
  · next w rest =>
    have hword : keyword.isWord w = false := h
    simp [hword]
  · rfl

theorem eat_word {keyword : Keyword} {w : String} (h : keyword.isWord w = true)
    (rest : List Token) :
    eat keyword (.word w :: rest) = some ⟨rest, Nat.lt_succ_self rest.length⟩ := by
  simp [eat, h]

theorem isWord_text (keyword : Keyword) : keyword.isWord keyword.text = true := by
  cases keyword <;> decide

theorem eat_text (keyword : Keyword) (rest : List Token) :
    eat keyword (.word keyword.text :: rest) = some ⟨rest, Nat.lt_succ_self rest.length⟩ :=
  eat_word (isWord_text keyword) rest

theorem remaining_expectKeyword (total : Nat) (keyword : Keyword) (rest : List Token) :
    remaining (expectKeyword total keyword (.word keyword.text :: rest)) = some rest := by
  rw [expectKeyword, eat_text]
  rfl

theorem remaining_expect (token : Token) (rest : List Token) :
    remaining (expect token (token :: rest)) = some rest := by
  rw [expect, if_pos rfl]
  rfl

/-! ## Keys and timestamps -/

theorem outcome_readElement (tokens : List Token) :
    outcome (readElement tokens) =
      (outcome (readName tokens)).bind fun (kind, rest) =>
        (remaining (expect .comma rest)).bind fun rest =>
          (outcome (readKeyId rest)).bind fun (id, rest) => some ((kind, id), rest) := by
  refine map_toOption_bind fun ⟨kind, rest, hkind⟩ => ?_
  refine map_toOption_bind fun ⟨rest, hcomma⟩ => ?_
  exact map_toOption_bind fun ⟨id, rest, hid⟩ => rfl

theorem outcome_readPath (tokens : List Token) :
    outcome (readPath tokens) =
      (remaining (expect .openParen tokens)).bind fun rest =>
        (outcome (readElement rest)).bind fun (first, rest) =>
          (outcome (repeated nextElement rest)).bind fun (others, rest) =>
            (remaining (expect .closeParen rest)).bind fun rest =>
              some (first :: others, rest) := by
  refine map_toOption_bind fun ⟨rest, hopen⟩ => ?_
  refine map_toOption_bind fun ⟨first, rest, hfirst⟩ => ?_
  refine map_toOption_bind fun ⟨others, rest, hothers⟩ => ?_
  exact map_toOption_bind fun ⟨rest, hclose⟩ => rfl

theorem outcome_readStamp (tokens : List Token) :
    outcome (readStamp tokens) =
      (remaining (expect .openParen tokens)).bind fun rest =>
        (outcome (readStampText rest)).bind fun (raw, rest) =>
          (remaining (expect .closeParen rest)).bind fun rest =>
            (Instant.read? raw.toList).map (·, rest) := by
  refine map_toOption_bind fun ⟨rest, hopen⟩ => ?_
  refine map_toOption_bind fun ⟨raw, rest, hraw⟩ => ?_
  refine map_toOption_bind fun ⟨rest, hclose⟩ => ?_
  cases Instant.read? raw.toList <;> rfl

/-! ## Clauses -/

theorem outcome_readValue (tokens : List Token) :
    outcome (readValue tokens) = (startValue tokens []).toOption := by
  unfold readValue
  split
  · next h => exact (congrArg Except.toOption h).symm
  · next h => exact (congrArg Except.toOption h).symm

theorem outcome_readOperand_key {tokens rest : List Token} {hlt : rest.length < tokens.length}
    (h : eat .key tokens = some ⟨rest, hlt⟩) :
    outcome (readOperand tokens) =
      (outcome (readPath rest)).bind fun (path, rest) => some (.key path, rest) := by
  rw [readOperand, h]
  exact map_toOption_bind fun ⟨_, _, _⟩ => rfl

theorem outcome_readOperand_timestamp {tokens rest : List Token} {hlt : rest.length < tokens.length}
    (hkey : eat .key tokens = none) (h : eat .datetime tokens = some ⟨rest, hlt⟩) :
    outcome (readOperand tokens) =
      (outcome (readStamp rest)).bind fun (t, rest) => some (.timestamp t, rest) := by
  rw [readOperand, hkey, h]
  exact map_toOption_bind fun ⟨_, _, _⟩ => rfl

theorem outcome_readOperand_value {tokens : List Token} (hkey : eat .key tokens = none)
    (hdatetime : eat .datetime tokens = none) :
    outcome (readOperand tokens) =
      (outcome (readValue tokens)).bind fun (v, rest) => some (.value v, rest) := by
  rw [readOperand, hkey, hdatetime]
  exact map_toOption_bind fun ⟨_, _, _⟩ => rfl

theorem outcome_readCondition (tokens : List Token) :
    outcome (readCondition tokens) =
      (outcome (readName tokens)).bind fun (field, rest) =>
        (outcome (readOperator rest)).bind fun (op, rest) =>
          (outcome (readOperand rest)).bind fun (operand, rest) =>
            some (⟨field, op, operand⟩, rest) := by
  refine map_toOption_bind fun ⟨field, rest, hfield⟩ => ?_
  refine map_toOption_bind fun ⟨op, rest, hop⟩ => ?_
  exact map_toOption_bind fun ⟨operand, rest, hoperand⟩ => rfl

theorem taken_nextCondition_and {tokens rest : List Token} {hlt : rest.length < tokens.length}
    (h : eat .and tokens = some ⟨rest, hlt⟩) :
    taken (nextCondition tokens) =
      (outcome (readCondition rest)).bind fun (c, rest) => some (some ((.and, c), rest)) := by
  rw [nextCondition, h]
  exact map_toOption_bind fun ⟨_, _, _⟩ => rfl

theorem taken_nextCondition_or {tokens rest : List Token} {hlt : rest.length < tokens.length}
    (hand : eat .and tokens = none) (h : eat .or tokens = some ⟨rest, hlt⟩) :
    taken (nextCondition tokens) =
      (outcome (readCondition rest)).bind fun (c, rest) => some (some ((.or, c), rest)) := by
  rw [nextCondition, hand, h]
  exact map_toOption_bind fun ⟨_, _, _⟩ => rfl

theorem taken_nextCondition_none {tokens : List Token} (hand : eat .and tokens = none)
    (hor : eat .or tokens = none) : taken (nextCondition tokens) = some none := by
  rw [nextCondition, hand, hor]
  rfl

theorem outcome_readFilter_none {tokens : List Token} (h : eat .where tokens = none) :
    outcome (readFilter tokens) = some ([], tokens) := by
  rw [readFilter, h]
  rfl

theorem outcome_readFilter_some {tokens rest : List Token} {hlt : rest.length < tokens.length}
    (h : eat .where tokens = some ⟨rest, hlt⟩) :
    outcome (readFilter tokens) =
      (outcome (readCondition rest)).bind fun (first, rest) =>
        (outcome (repeated nextCondition rest)).bind fun (others, rest) =>
          some (groupConditions first others, rest) := by
  rw [readFilter, h]
  refine map_toOption_bind fun ⟨first, rest, hfirst⟩ => ?_
  exact map_toOption_bind fun ⟨others, rest, hothers⟩ => rfl

/-! ## Fields -/

theorem taken_nextName (rest : List Token) :
    taken (nextName (.comma :: rest)) =
      (outcome (readName rest)).bind fun (name, rest) => some (some (name, rest)) := by
  unfold nextName
  exact map_toOption_bind fun ⟨_, _, _⟩ => rfl

theorem outcome_readProjection_names {token : Token} {rest : List Token} (h : token ≠ .star) :
    outcome (readProjection (token :: rest)) =
      (outcome (readName (token :: rest))).bind fun (first, rest) =>
        (outcome (repeated nextName rest)).bind fun (others, rest) =>
          some (first :: others, rest) := by
  rw [readProjection]
  · refine map_toOption_bind fun ⟨first, rest, hfirst⟩ => ?_
    exact map_toOption_bind fun ⟨others, rest, hothers⟩ => rfl
  · intro rest heq
    cases heq
    exact h rfl

theorem outcome_readOrder (tokens : List Token) :
    outcome (readOrder tokens) =
      (outcome (readName tokens)).bind fun (field, rest) =>
        some (⟨field, (readDirection rest).1⟩, (readDirection rest).2.1) :=
  map_toOption_bind fun ⟨_, _, _⟩ => rfl

theorem taken_nextOrder (rest : List Token) :
    taken (nextOrder (.comma :: rest)) =
      (outcome (readOrder rest)).bind fun (spec, rest) => some (some (spec, rest)) := by
  unfold nextOrder
  exact map_toOption_bind fun ⟨_, _, _⟩ => rfl

theorem outcome_readOrders_none (total : Nat) {tokens : List Token}
    (h : eat .order tokens = none) : outcome (readOrders total tokens) = some ([], tokens) := by
  rw [readOrders, h]
  rfl

theorem outcome_readOrders_some (total : Nat) {tokens rest : List Token}
    {hlt : rest.length < tokens.length} (h : eat .order tokens = some ⟨rest, hlt⟩) :
    outcome (readOrders total tokens) =
      (remaining (expectKeyword total .by rest)).bind fun rest =>
        (outcome (readOrder rest)).bind fun (first, rest) =>
          (outcome (repeated nextOrder rest)).bind fun (others, rest) =>
            some (first :: others, rest) := by
  rw [readOrders, h]
  refine map_toOption_bind fun ⟨rest, hby⟩ => ?_
  refine map_toOption_bind fun ⟨first, rest, hfirst⟩ => ?_
  exact map_toOption_bind fun ⟨others, rest, hothers⟩ => rfl

theorem outcome_readLimit_none {keyword : Keyword} {tokens : List Token}
    (h : eat keyword tokens = none) : outcome (readLimit keyword tokens) = some (none, tokens) := by
  rw [readLimit, h]
  rfl

theorem outcome_readLimit_some {keyword : Keyword} {tokens rest : List Token}
    {hlt : rest.length < tokens.length} (h : eat keyword tokens = some ⟨rest, hlt⟩) :
    outcome (readLimit keyword tokens) =
      (outcome (readCount rest)).bind fun (count, rest) => some (some count, rest) := by
  rw [readLimit, h]
  exact map_toOption_bind fun ⟨_, _, _⟩ => rfl

/-! ## Queries -/

theorem toOption_readStatement (tokens : List Token) :
    (readStatement tokens).toOption =
      (remaining (expectKeyword tokens.length .select tokens)).bind fun rest =>
        (outcome (readProjection rest)).bind fun (projection, rest) =>
          (remaining (expectKeyword tokens.length .from rest)).bind fun rest =>
            (outcome (readName rest)).bind fun (kind, rest) =>
              (outcome (readFilter rest)).bind fun (groups, rest) =>
                (outcome (readOrders tokens.length rest)).bind fun (orders, rest) =>
                  (outcome (readLimit .limit rest)).bind fun (limit, rest) =>
                    (outcome (readLimit .offset rest)).bind fun (offset, rest) =>
                      if rest.isEmpty then
                        some { projection, kind, groups, orders, limit, offset }
                      else none := by
  have hforget : ∀ r : Except SyntaxError Statement, r.toOption = r.toOption.map id :=
    fun r => by cases r <;> rfl
  rw [hforget]
  refine map_toOption_bind fun ⟨rest, hselect⟩ => ?_
  refine map_toOption_bind fun ⟨projection, rest, hprojection⟩ => ?_
  refine map_toOption_bind fun ⟨rest, hfrom⟩ => ?_
  refine map_toOption_bind fun ⟨kind, rest, hkind⟩ => ?_
  refine map_toOption_bind fun ⟨groups, rest, hgroups⟩ => ?_
  refine map_toOption_bind fun ⟨orders, rest, horders⟩ => ?_
  refine map_toOption_bind fun ⟨limit, rest, hlimit⟩ => ?_
  refine map_toOption_bind fun ⟨offset, rest, hoffset⟩ => ?_
  cases rest <;> rfl

end EntityQuery.Gql
