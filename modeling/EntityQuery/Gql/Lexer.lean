import EntityQuery.Gql.Error
import EntityQuery.Text.Letter
import EntityQuery.Text.Quoted

/-!
# Tokens from text

`tokenize` cuts query text into tokens.  White space may stand between any two
of them.  `scan` takes one token from the front of a text: the longest word,
number or operator that is there, or a quoted text up to its closing quote.
-/

namespace EntityQuery.Gql

open EntityQuery.Text

/-- Why a text does not begin with a token. -/
inductive ScanError where
  | unexpected
  | unterminated
  | invalidNumber (raw : String)

/-- The operator at the front of a text, and what follows it. -/
def scanOperator : List Char → Option (Operator × List Char)
  | '<' :: '=' :: rest => some (.atMost, rest)
  | '>' :: '=' :: rest => some (.atLeast, rest)
  | '<' :: '>' :: rest => some (.unequal, rest)
  | '!' :: '=' :: rest => some (.notEqual, rest)
  | '=' :: rest => some (.equal, rest)
  | '<' :: rest => some (.less, rest)
  | '>' :: rest => some (.greater, rest)
  | _ => none

/-- Whether a character may go on with a number after the given one: a digit, a point or the
letter of an exponent, and a sign after such a letter. -/
def continuesNumber (previous c : Char) : Bool :=
  c.isDigit || c == '.' || c == 'e' || c == 'E' ||
    ((c == '+' || c == '-') && (previous == 'e' || previous == 'E'))

/-- The run of characters that goes on with a number after the given one, and what follows. -/
def numberRun (previous : Char) : List Char → List Char × List Char
  | [] => ([], [])
  | c :: cs =>
    if continuesNumber previous c then
      match numberRun c cs with
      | (run, rest) => (c :: run, rest)
    else ([], c :: cs)

/-- The number of a run of characters: an integer that fits 64 bits, or the nearest binary64
number. -/
def readNumber? (run : List Char) : Option JsonNumber :=
  match readInt64? run with
  | some i => some (.ofInt64 i)
  | none => (Binary64.read? run).map .float

/-- Whether a number begins with the given character: a digit, or a hyphen before one. -/
def startsNumber (c : Char) (cs : List Char) : Bool :=
  c.isDigit || (c == '-' && match cs with | d :: _ => d.isDigit | [] => false)

/-- Whether a character may begin a word. -/
def startsWord (c : Char) : Bool := isAlphabetic c || c == '_'

/-- Whether a character may go on with a word. -/
def continuesWord (c : Char) : Bool := isAlphanumeric c || c == '_'

/-- The token at the front of a text that begins with the given character, which is not white
space, and what follows the token. -/
def scan (c : Char) (cs : List Char) : Except ScanError (Token × List Char) :=
  if c = ',' then .ok (.comma, cs)
  else if c = '(' then .ok (.openParen, cs)
  else if c = ')' then .ok (.closeParen, cs)
  else if c = '*' then .ok (.star, cs)
  else if c = '\'' ∨ c = '"' then
    match Quoted.read c cs with
    | some (s, rest) => .ok (.text (String.ofList s), rest)
    | none => .error .unterminated
  else if c = '\x60' then
    match Quoted.read c cs with
    | some (s, rest) => .ok (.quoted (String.ofList s), rest)
    | none => .error .unterminated
  else if startsNumber c cs then
    match numberRun c cs with
    | (run, rest) =>
      match readNumber? (c :: run) with
      | some n => .ok (.number n, rest)
      | none => .error (.invalidNumber (String.ofList (c :: run)))
  else if startsWord c then
    .ok (.word (String.ofList (c :: cs.takeWhile continuesWord)), cs.dropWhile continuesWord)
  else
    match scanOperator (c :: cs) with
    | some (op, rest) => .ok (.operator op, rest)
    | none => .error .unexpected

/-! ## Every token shortens the text -/

theorem scanOperator_length {cs rest : List Char} {op : Operator}
    (h : scanOperator cs = some (op, rest)) : rest.length < cs.length := by
  unfold scanOperator at h
  split at h
  case h_8 => simp at h
  all_goals cases h; simp only [List.length_cons]; omega

theorem numberRun_length {previous : Char} {cs run rest : List Char}
    (h : numberRun previous cs = (run, rest)) : run.length + rest.length = cs.length := by
  induction cs generalizing previous run with
  | nil => cases h; rfl
  | cons c cs ih =>
    rw [numberRun] at h
    split at h
    · split at h
      next hrun =>
      cases h
      have := ih hrun
      simp only [List.length_cons]
      omega
    · cases h; simp

theorem numberRun_length_le {previous : Char} {cs run rest : List Char}
    (h : numberRun previous cs = (run, rest)) : rest.length ≤ cs.length :=
  numberRun_length h ▸ Nat.le_add_left ..

theorem scan_length {c : Char} {cs rest : List Char} {token : Token}
    (h : scan c cs = .ok (token, rest)) : rest.length ≤ cs.length := by
  unfold scan at h
  repeat' split at h
  all_goals try cases h
  all_goals first
    | exact Nat.le_refl _
    | exact Nat.le_of_lt (Quoted.read_length (by assumption))
    | exact numberRun_length_le (by assumption)
    | exact (List.dropWhile_sublist _).length_le
    | exact Nat.le_of_lt_succ (scanOperator_length (by assumption))

/-! ## Text -/

/-- The error of a text that does not begin with a token: of the given character, which stands
at the given index. -/
def ScanError.at (c : Char) (index : Nat) : ScanError → SyntaxError
  | .unexpected => .unexpectedChar c index
  | .unterminated => .unterminated c
  | .invalidNumber raw => .invalidNumber raw

/-- The tokens of the rest of a text with `total` characters. -/
def tokensFrom (total : Nat) : List Char → Except SyntaxError (List Token)
  | [] => .ok []
  | c :: cs =>
    if isBlank c then tokensFrom total cs
    else
      match _h : scan c cs with
      | .error e => .error (e.at c (total - (cs.length + 1)))
      | .ok (token, rest) =>
        match tokensFrom total rest with
        | .error e => .error e
        | .ok tokens => .ok (token :: tokens)
termination_by cs => cs.length
decreasing_by
  · simp
  · exact Nat.lt_succ_of_le (scan_length (by assumption))

/-- The tokens of a text. -/
def tokenize (s : String) : Except SyntaxError (List Token) :=
  tokensFrom s.toList.length s.toList

end EntityQuery.Gql
