import EntityQuery.Gql.Lexer
import EntityQuery.Gql.Statement

/-!
# Statements from tokens

`parse` reads query text:

```text
SELECT (* | name, ...) FROM name
  [WHERE name operator value [(AND | OR) name operator value] ...]
  [ORDER BY name [ASC | DESC], ...]
  [LIMIT count] [OFFSET count]
```

A value is a text, a number, `TRUE`, `FALSE`, `NULL`, `ARRAY(value, ...)`,
`KEY(name, id, ...)` or `DATETIME(text)`.  `AND` binds its comparisons closer
than `OR`.

A reader takes what it reads from the front of a list of tokens and gives back
the rest, with a proof that the rest is shorter.  `repeated` runs a reader until
it says that its list has ended.
-/

namespace EntityQuery.Gql

/-- Tokens that are fewer than the given ones. -/
abbrev Rest (tokens : List Token) := { rest : List Token // rest.length < tokens.length }

/-- Tokens that are not more than the given ones. -/
abbrev RestOrAll (tokens : List Token) := { rest : List Token // rest.length ≤ tokens.length }

/-- What a reader that takes something from the front of the tokens gives back. -/
abbrev Read (α : Type) (tokens : List Token) := Except SyntaxError (α × Rest tokens)

/-- Whether the next token is the keyword. -/
def nextIs (keyword : Keyword) : List Token → Bool
  | .word w :: _ => keyword.isWord w
  | _ => false

/-- The tokens after the keyword, if it comes next. -/
def eat (keyword : Keyword) : (tokens : List Token) → Option (Rest tokens)
  | .word w :: rest => if keyword.isWord w then some ⟨rest, by simp⟩ else none
  | _ => none

/-- The tokens after the keyword, which has to come next.  `total` counts the tokens of the whole
query. -/
def expectKeyword (total : Nat) (keyword : Keyword) (tokens : List Token) :
    Except SyntaxError (Rest tokens) :=
  match eat keyword tokens with
  | some rest => .ok rest
  | none => .error (.expectedKeyword keyword (total - tokens.length))

/-- The tokens after the given one, which has to come next. -/
def expect (token : Token) : (tokens : List Token) → Except SyntaxError (Rest tokens)
  | [] => .error .unexpectedEnd
  | found :: rest =>
    if found = token then .ok ⟨rest, by simp⟩ else .error (.expectedToken token found)

/-- A name: a word of any kind or a name in back-quotes. -/
def readName : (tokens : List Token) → Read String tokens
  | [] => .error .unexpectedEnd
  | .word w :: rest => .ok (w, ⟨rest, by simp⟩)
  | .quoted w :: rest => .ok (w, ⟨rest, by simp⟩)
  | found :: _ => .error (.expectedName found)

/-- An operator. -/
def readOperator : (tokens : List Token) → Read Operator tokens
  | [] => .error .unexpectedEnd
  | .operator op :: rest => .ok (op, ⟨rest, by simp⟩)
  | found :: _ => .error (.expectedOperator found)

/-- A natural number that fits 64 bits. -/
def readCount : (tokens : List Token) → Read UInt64 tokens
  | [] => .error .unexpectedEnd
  | .number n :: rest =>
    match n.uint64? with
    | some count => .ok (count, ⟨rest, by simp⟩)
    | none => .error (.invalidCount n)
  | found :: _ => .error (.expectedInteger found)

/-- Runs a reader again and again until it answers that the list has ended. -/
def repeated {α : Type}
    (item : (tokens : List Token) → Except SyntaxError (Option (α × Rest tokens)))
    (tokens : List Token) : Except SyntaxError (List α × RestOrAll tokens) :=
  match item tokens with
  | .error e => .error e
  | .ok none => .ok ([], ⟨tokens, Nat.le_refl _⟩)
  | .ok (some (x, rest)) =>
    match repeated item rest.1 with
    | .error e => .error e
    | .ok (xs, last) =>
      .ok (x :: xs, ⟨last.1, Nat.le_of_lt (Nat.lt_of_le_of_lt last.2 rest.2)⟩)
termination_by tokens.length
decreasing_by exact rest.2

/-! ## Values -/

/-- The value of a word, if it has one. -/
def wordValue? (w : String) : Option Json :=
  if Keyword.true.isWord w then some (.bool true)
  else if Keyword.false.isWord w then some (.bool false)
  else if Keyword.null.isWord w then some .null
  else none

mutual

/-- A value comes next.  The stack holds what was read of the arrays that are open, in reverse
order. -/
def startValue : List Token → List (List Json) → Except SyntaxError (Json × List Token)
  | [], _ => .error .unexpectedEnd
  | .text s :: rest, stack => finishValue (.string s) rest stack
  | .number n :: rest, stack => finishValue (.number n) rest stack
  | .word w :: rest, stack =>
    if Keyword.array.isWord w then
      match rest with
      | [] => .error .unexpectedEnd
      | .openParen :: .closeParen :: rest => finishValue (.array []) rest stack
      | .openParen :: rest => startValue rest ([] :: stack)
      | found :: _ => .error (.expectedToken .openParen found)
    else
      match wordValue? w with
      | some v => finishValue v rest stack
      | none => .error (.expectedValue (.word w))
  | found :: _, _ => .error (.expectedValue found)
termination_by structural tokens => tokens

/-- A value has just been read. -/
def finishValue : Json → List Token → List (List Json) → Except SyntaxError (Json × List Token)
  | v, rest, [] => .ok (v, rest)
  | _, [], _ :: _ => .error .unexpectedEnd
  | v, token :: rest, items :: stack =>
    match token with
    | .closeParen => finishValue (.array (v :: items).reverse) rest stack
    | .comma => startValue rest ((v :: items) :: stack)
    | found => .error (.expectedToken .comma found)
termination_by structural _ tokens => tokens

end

/-- A value takes one token at least, and the end of one takes none or more. -/
theorem value_length (n : Nat) :
    (∀ tokens stack v rest, tokens.length ≤ n →
      startValue tokens stack = .ok (v, rest) → rest.length < tokens.length) ∧
    (∀ tokens stack w v rest, tokens.length ≤ n →
      finishValue w tokens stack = .ok (v, rest) → rest.length ≤ tokens.length) := by
  induction n with
  | zero =>
    constructor
    · intro tokens stack v rest hn h
      have : tokens = [] := List.length_eq_zero_iff.1 (Nat.le_zero.1 hn)
      subst this
      simp [startValue] at h
    · intro tokens stack w v rest hn h
      have : tokens = [] := List.length_eq_zero_iff.1 (Nat.le_zero.1 hn)
      subst this
      cases stack with
      | nil => simp [finishValue] at h; simp [h.2]
      | cons => simp [finishValue] at h
  | succ n ih =>
    constructor
    · intro tokens stack v rest hn h
      cases tokens with
      | nil => simp [startValue] at h
      | cons token tail =>
        have hn' : tail.length ≤ n := by simpa using hn
        cases token with
        | text s =>
          have := ih.2 _ _ _ _ _ hn' (by simpa [startValue] using h)
          simp only [List.length_cons]; omega
        | number m =>
          have := ih.2 _ _ _ _ _ hn' (by simpa [startValue] using h)
          simp only [List.length_cons]; omega
        | word w =>
          unfold startValue at h
          split at h
          · split at h
            · simp at h
            · next more =>
              simp only [List.length_cons] at hn'
              have := ih.2 _ _ _ _ _ (by omega) h
              simp only [List.length_cons]; omega
            · next more _ =>
              simp only [List.length_cons] at hn'
              have := ih.1 _ _ _ _ (by omega) h
              simp only [List.length_cons]; omega
            · simp at h
          · split at h
            · have := ih.2 _ _ _ _ _ hn' h
              simp only [List.length_cons]; omega
            · simp at h
        | quoted | operator | comma | openParen | closeParen | star => simp [startValue] at h
    · intro tokens stack w v rest hn h
      cases stack with
      | nil => simp [finishValue] at h; simp [h.2]
      | cons items stack =>
        cases tokens with
        | nil => simp [finishValue] at h
        | cons token tail =>
          have hn' : tail.length ≤ n := by simpa using hn
          unfold finishValue at h
          split at h
          · have := ih.2 _ _ _ _ _ hn' h
            simp only [List.length_cons]; omega
          · have := ih.1 _ _ _ _ hn' h
            simp only [List.length_cons]; omega
          · simp at h

theorem startValue_length {tokens rest : List Token} {stack : List (List Json)} {v : Json}
    (h : startValue tokens stack = .ok (v, rest)) : rest.length < tokens.length :=
  (value_length tokens.length).1 _ _ _ _ (Nat.le_refl _) h

/-- A value. -/
def readValue (tokens : List Token) : Read Json tokens :=
  match _h : startValue tokens [] with
  | .error e => .error e
  | .ok (v, rest) => .ok (v, ⟨rest, startValue_length (by assumption)⟩)

/-! ## Keys and timestamps -/

/-- The id of an element of a key: a signed 64-bit integer or a text. -/
def readKeyId : (tokens : List Token) → Read KeyId tokens
  | [] => .error .unexpectedEnd
  | .number n :: rest =>
    match n.int64? with
    | some id => .ok (.number id, ⟨rest, by simp⟩)
    | none => .error (.invalidKeyId n)
  | .text s :: rest => .ok (.name s, ⟨rest, by simp⟩)
  | found :: _ => .error (.expectedKeyId found)

/-- A kind, a comma and an id. -/
def readElement (tokens : List Token) : Read (String × KeyId) tokens := do
  let (kind, ⟨rest, h₁⟩) ← readName tokens
  let ⟨rest, h₂⟩ ← expect .comma rest
  let (id, ⟨rest, h₃⟩) ← readKeyId rest
  .ok ((kind, id), ⟨rest, by omega⟩)

/-- One more element of a path behind a comma, unless the path ends here. -/
def nextElement (tokens : List Token) :
    Except SyntaxError (Option ((String × KeyId) × Rest tokens)) :=
  match tokens with
  | .closeParen :: _ => .ok none
  | tokens => do
    let ⟨rest, h₁⟩ ← expect .comma tokens
    let (element, ⟨rest, h₂⟩) ← readElement rest
    .ok (some (element, ⟨rest, by omega⟩))

/-- The path of a key in parentheses. -/
def readPath (tokens : List Token) : Read (List (String × KeyId)) tokens := do
  let ⟨rest, h₁⟩ ← expect .openParen tokens
  let (first, ⟨rest, h₂⟩) ← readElement rest
  let (others, ⟨rest, h₃⟩) ← repeated nextElement rest
  let ⟨rest, h₄⟩ ← expect .closeParen rest
  .ok (first :: others, ⟨rest, by omega⟩)

/-- The text of a timestamp. -/
def readStampText : (tokens : List Token) → Read String tokens
  | [] => .error .unexpectedEnd
  | .text s :: rest => .ok (s, ⟨rest, by simp⟩)
  | found :: _ => .error (.expectedDatetime found)

/-- A timestamp in parentheses. -/
def readStamp (tokens : List Token) : Read Instant tokens := do
  let ⟨rest, h₁⟩ ← expect .openParen tokens
  let (raw, ⟨rest, h₂⟩) ← readStampText rest
  let ⟨rest, h₃⟩ ← expect .closeParen rest
  match Instant.read? raw.toList with
  | some t => .ok (t, ⟨rest, by omega⟩)
  | none => .error (.invalidDatetime raw)

/-! ## Clauses -/

/-- The operand of a comparison. -/
def readOperand (tokens : List Token) : Read Operand tokens :=
  match eat .key tokens with
  | some ⟨rest, h₁⟩ => do
    let (path, ⟨rest, h₂⟩) ← readPath rest
    .ok (.key path, ⟨rest, by omega⟩)
  | none =>
    match eat .datetime tokens with
    | some ⟨rest, h₁⟩ => do
      let (t, ⟨rest, h₂⟩) ← readStamp rest
      .ok (.timestamp t, ⟨rest, by omega⟩)
    | none => do
      let (v, rest) ← readValue tokens
      .ok (.value v, rest)

/-- A comparison. -/
def readCondition (tokens : List Token) : Read Condition tokens := do
  let (field, ⟨rest, h₁⟩) ← readName tokens
  let (op, ⟨rest, h₂⟩) ← readOperator rest
  let (operand, ⟨rest, h₃⟩) ← readOperand rest
  .ok (⟨field, op, operand⟩, ⟨rest, by omega⟩)

/-- One more comparison behind its connector, unless the filter ends here. -/
def nextCondition (tokens : List Token) :
    Except SyntaxError (Option ((Connector × Condition) × Rest tokens)) :=
  match eat .and tokens with
  | some ⟨rest, h₁⟩ => do
    let (condition, ⟨rest, h₂⟩) ← readCondition rest
    .ok (some ((.and, condition), ⟨rest, by omega⟩))
  | none =>
    match eat .or tokens with
    | some ⟨rest, h₁⟩ => do
      let (condition, ⟨rest, h₂⟩) ← readCondition rest
      .ok (some ((.or, condition), ⟨rest, by omega⟩))
    | none => .ok none

/-- Conditions in groups: a condition joined by `OR` begins a new group. -/
def groupConditions (first : Condition) : List (Connector × Condition) → List (List Condition)
  | [] => [[first]]
  | (.or, condition) :: rest => [first] :: groupConditions condition rest
  | (.and, condition) :: rest =>
    match groupConditions condition rest with
    | group :: groups => (first :: group) :: groups
    | [] => [[first]]

/-- The groups of the filter, if there is one. -/
def readFilter (tokens : List Token) :
    Except SyntaxError (List (List Condition) × RestOrAll tokens) :=
  match eat .where tokens with
  | none => .ok ([], ⟨tokens, Nat.le_refl _⟩)
  | some ⟨rest, h₁⟩ => do
    let (first, ⟨rest, h₂⟩) ← readCondition rest
    let (others, ⟨rest, h₃⟩) ← repeated nextCondition rest
    .ok (groupConditions first others, ⟨rest, by omega⟩)

/-- One more name behind a comma, unless the list ends here. -/
def nextName (tokens : List Token) : Except SyntaxError (Option (String × Rest tokens)) :=
  match tokens with
  | .comma :: rest => do
    let (name, ⟨rest, h₁⟩) ← readName rest
    .ok (some (name, ⟨rest, by simp only [List.length_cons]; omega⟩))
  | _ => .ok none

/-- The fields to return: none of them by name for a star. -/
def readProjection (tokens : List Token) : Read (List String) tokens :=
  match tokens with
  | .star :: rest => .ok ([], ⟨rest, by simp⟩)
  | tokens => do
    let (first, ⟨rest, h₁⟩) ← readName tokens
    let (others, ⟨rest, h₂⟩) ← repeated nextName rest
    .ok (first :: others, ⟨rest, by omega⟩)

/-- The direction of a sort, ascending if there is none. -/
def readDirection (tokens : List Token) : Direction × RestOrAll tokens :=
  match eat .desc tokens with
  | some rest => (.descending, ⟨rest.1, Nat.le_of_lt rest.2⟩)
  | none =>
    match eat .asc tokens with
    | some rest => (.ascending, ⟨rest.1, Nat.le_of_lt rest.2⟩)
    | none => (.ascending, ⟨tokens, Nat.le_refl _⟩)

/-- A field to sort by, and the direction. -/
def readOrder (tokens : List Token) : Read SortSpec tokens := do
  let (field, ⟨rest, h₁⟩) ← readName tokens
  let (direction, ⟨rest, h₂⟩) := readDirection rest
  .ok (⟨field, direction⟩, ⟨rest, by omega⟩)

/-- One more field to sort by behind a comma, unless the list ends here. -/
def nextOrder (tokens : List Token) : Except SyntaxError (Option (SortSpec × Rest tokens)) :=
  match tokens with
  | .comma :: rest => do
    let (spec, ⟨rest, h₁⟩) ← readOrder rest
    .ok (some (spec, ⟨rest, by simp only [List.length_cons]; omega⟩))
  | _ => .ok none

/-- The fields to sort by, if there are any. -/
def readOrders (total : Nat) (tokens : List Token) :
    Except SyntaxError (List SortSpec × RestOrAll tokens) :=
  match eat .order tokens with
  | none => .ok ([], ⟨tokens, Nat.le_refl _⟩)
  | some ⟨rest, h₁⟩ => do
    let ⟨rest, h₂⟩ ← expectKeyword total .by rest
    let (first, ⟨rest, h₃⟩) ← readOrder rest
    let (others, ⟨rest, h₄⟩) ← repeated nextOrder rest
    .ok (first :: others, ⟨rest, by omega⟩)

/-- The count behind a keyword, if the keyword comes next. -/
def readLimit (keyword : Keyword) (tokens : List Token) :
    Except SyntaxError (Option UInt64 × RestOrAll tokens) :=
  match eat keyword tokens with
  | none => .ok (none, ⟨tokens, Nat.le_refl _⟩)
  | some ⟨rest, h₁⟩ => do
    let (count, ⟨rest, h₂⟩) ← readCount rest
    .ok (some count, ⟨rest, by omega⟩)

/-! ## Queries -/

/-- The statement of all the tokens. -/
def readStatement (tokens : List Token) : Except SyntaxError Statement := do
  let total := tokens.length
  let ⟨rest, _⟩ ← expectKeyword total .select tokens
  let (projection, ⟨rest, _⟩) ← readProjection rest
  let ⟨rest, _⟩ ← expectKeyword total .from rest
  let (kind, ⟨rest, _⟩) ← readName rest
  let (groups, ⟨rest, _⟩) ← readFilter rest
  let (orders, ⟨rest, _⟩) ← readOrders total rest
  let (limit, ⟨rest, _⟩) ← readLimit .limit rest
  let (offset, ⟨rest, _⟩) ← readLimit .offset rest
  match rest with
  | [] => .ok { projection, kind, groups, orders, limit, offset }
  | found :: _ => .error (.trailing found)

/-- The statement of a text. -/
def parse (s : String) : Except SyntaxError Statement :=
  match tokenize s with
  | .error e => .error e
  | .ok tokens => readStatement tokens

end EntityQuery.Gql
