import EntityQuery.Gql.Lexer
import EntityQuery.Gql.Writer
import EntityQuery.Proofs.Json.Reread

/-!
# The tokens of written pieces

Every piece that query text is written from is cut into its own tokens again.
`Lexes cs tokens` says so of the characters `cs`, whatever follows them, as long as
that begins with a break: a space, a comma or a parenthesis.

* Joining.  `Lexes.break_cons` puts a break in front of a piece, and `Lexes.append`
  joins two pieces of which the second begins with one.
* Single tokens.  `lexes_word`, `lexes_identifier`, `lexes_name`, `lexes_text`, `lexes_number` and
  `lexes_operator` are one lemma for each kind of token.
-/

namespace EntityQuery.Gql

open EntityQuery.Text

/-! ## Breaks -/

/-- The characters that end every word, number and operator before them. -/
def isBreak (c : Char) : Bool := c == ' ' || c == ',' || c == '(' || c == ')'

/-- What a break is itself: a token, or nothing if it is a space. -/
def breakTokens : Char → List Token
  | ',' => [.comma]
  | '(' => [.openParen]
  | ')' => [.closeParen]
  | _ => []

/-- Nothing follows, or a break does. -/
def Breaks (rest : List Char) : Prop := ∀ c ∈ rest.head?, isBreak c = true

theorem breaks_nil : Breaks [] := by simp [Breaks]

theorem breaks_cons {c : Char} {rest : List Char} : Breaks (c :: rest) ↔ isBreak c = true := by
  simp [Breaks]

theorem isBreak_iff {c : Char} :
    isBreak c = true ↔ c = ' ' ∨ c = ',' ∨ c = '(' ∨ c = ')' := by
  simp [isBreak, or_assoc]

/-- Whatever is false of the four breaks is false of what follows a piece. -/
theorem Breaks.head_false {rest : List Char} (h : Breaks rest) {p : Char → Bool}
    (hp : p ' ' = false ∧ p ',' = false ∧ p '(' = false ∧ p ')' = false) :
    ∀ c ∈ rest.head?, p c = false := by
  intro c hc
  rcases isBreak_iff.1 (h c hc) with rfl | rfl | rfl | rfl
  · exact hp.1
  · exact hp.2.1
  · exact hp.2.2.1
  · exact hp.2.2.2

/-! ## Pieces -/

/-- The characters are cut into the tokens, if nothing or a break follows them. -/
def Lexes (cs : List Char) (tokens : List Token) : Prop :=
  ∀ (total : Nat) (rest : List Char), Breaks rest →
    tokensFrom total (cs ++ rest) = (tokensFrom total rest).map (tokens ++ ·)

theorem Lexes.nil : Lexes [] [] := by
  intro total rest _
  cases h : tokensFrom total rest <;> simp [h, Except.map]

/-- A text that begins with a token. -/
theorem tokensFrom_of_scan {total : Nat} {c : Char} {cs rest : List Char} {token : Token}
    (hblank : isBlank c = false) (hscan : scan c cs = .ok (token, rest)) :
    tokensFrom total (c :: cs) = (tokensFrom total rest).map (token :: ·) := by
  rw [tokensFrom, if_neg (Bool.eq_false_iff.1 hblank)]
  split
  · next hfail => rw [hscan] at hfail; cases hfail
  · next hok =>
    rw [hscan] at hok
    cases hok
    cases tokensFrom total rest <;> rfl

theorem tokensFrom_break {c : Char} (h : isBreak c = true) (total : Nat) (cs : List Char) :
    tokensFrom total (c :: cs) = (tokensFrom total cs).map (breakTokens c ++ ·) := by
  rcases isBreak_iff.1 h with rfl | rfl | rfl | rfl
  · rw [tokensFrom, if_pos (by decide)]
    cases tokensFrom total cs <;> rfl
  · exact tokensFrom_of_scan (by decide) rfl
  · exact tokensFrom_of_scan (by decide) rfl
  · exact tokensFrom_of_scan (by decide) rfl

/-- A break may stand in front of any piece. -/
theorem Lexes.break_cons {c : Char} {cs : List Char} {tokens : List Token}
    (hc : isBreak c = true) (h : Lexes cs tokens) :
    Lexes (c :: cs) (breakTokens c ++ tokens) := by
  intro total rest hrest
  rw [List.cons_append, tokensFrom_break hc, h total rest hrest]
  cases tokensFrom total rest <;> simp [Except.map]

/-- A piece may follow another one if it begins with a break. -/
theorem Lexes.append {cs ds : List Char} {tokens more : List Token} (h : Lexes cs tokens)
    (hmore : Lexes ds more) (hbreak : Breaks ds) : Lexes (cs ++ ds) (tokens ++ more) := by
  intro total rest hrest
  have hnext : Breaks (ds ++ rest) := by
    cases ds with
    | nil => exact hrest
    | cons d ds => exact breaks_cons.2 (breaks_cons.1 hbreak)
  rw [List.append_assoc, h total _ hnext, hmore total rest hrest]
  cases tokensFrom total rest <;> simp [Except.map]

/-- A piece between two breaks that are parentheses. -/
theorem Lexes.in_parens {cs : List Char} {tokens : List Token} (h : Lexes cs tokens) :
    Lexes ('(' :: cs ++ [')']) (.openParen :: tokens ++ [.closeParen]) := by
  have hopen := h.break_cons (show isBreak '(' = true from rfl)
  have hclose := Lexes.nil.break_cons (show isBreak ')' = true from rfl)
  exact hopen.append hclose (breaks_cons.2 rfl)

/-- A piece of one token. -/
theorem Lexes.of_scan {c : Char} {cs : List Char} {token : Token} (hblank : isBlank c = false)
    (hscan : ∀ rest, Breaks rest → scan c (cs ++ rest) = .ok (token, rest)) :
    Lexes (c :: cs) [token] := by
  intro total rest hrest
  exact tokensFrom_of_scan hblank (hscan rest hrest)

/-- The tokens of a whole text. -/
theorem Lexes.tokenize {s : String} {tokens : List Token} (h : Lexes s.toList tokens) :
    tokenize s = .ok tokens := by
  have hall := h s.toList.length [] breaks_nil
  rw [List.append_nil, tokensFrom] at hall
  rw [Gql.tokenize, hall]
  simp [Except.map]

/-! ## Words -/

theorem toNat_of_isIdentifierStart {c : Char} (h : isIdentifierStart c = true) :
    65 ≤ c.toNat ∧ c.toNat ≤ 90 ∨ 97 ≤ c.toNat ∧ c.toNat ≤ 122 ∨ c.toNat = 95 := by
  have hranges : ((decide ('A'.val ≤ c.val ∧ c.val ≤ 'Z'.val) ||
      decide ('a'.val ≤ c.val) && decide (c.val ≤ 'z'.val)) || c == '_') = true := h
  simp only [Bool.or_eq_true, Bool.and_eq_true, decide_eq_true_eq, beq_iff_eq] at hranges
  rcases hranges with (h | h) | rfl
  · exact .inl ⟨UInt32.le_iff_toNat_le.1 h.1, UInt32.le_iff_toNat_le.1 h.2⟩
  · exact .inr (.inl ⟨UInt32.le_iff_toNat_le.1 h.1, UInt32.le_iff_toNat_le.1 h.2⟩)
  · exact .inr (.inr rfl)

theorem toNat_of_isDigit {c : Char} (h : c.isDigit = true) : 48 ≤ c.toNat ∧ c.toNat ≤ 57 := by
  simp only [Char.isDigit, Bool.and_eq_true, decide_eq_true_eq] at h
  exact ⟨UInt32.le_iff_toNat_le.1 h.1, UInt32.le_iff_toNat_le.1 h.2⟩

theorem ne_of_toNat_ne {c d : Char} (h : c.toNat ≠ d.toNat) : c ≠ d :=
  fun heq => h (congrArg Char.toNat heq)

theorem isBlank_eq_false {c : Char} (h : 33 ≤ c.toNat ∧ c.toNat ≤ 126) : isBlank c = false := by
  simp only [isBlank, Bool.or_eq_false_iff, Bool.and_eq_false_iff, decide_eq_false_iff_not,
    beq_eq_false_iff_ne]
  omega

theorem startsWord_of_isIdentifierStart {c : Char} (h : isIdentifierStart c = true) :
    startsWord c = true := by
  simp only [isIdentifierStart, Bool.or_eq_true] at h
  simp only [startsWord, Bool.or_eq_true]
  exact h.imp isAlphabetic_of_isAlpha id

theorem continuesWord_of_isIdentifier {c : Char}
    (h : (isIdentifierStart c || c.isDigit) = true) : continuesWord c = true := by
  rcases Bool.or_eq_true_iff.1 h with h | h
  · have hstart := startsWord_of_isIdentifierStart h
    simp only [startsWord, Bool.or_eq_true] at hstart
    simp only [continuesWord, isAlphanumeric, Bool.or_eq_true]
    exact hstart.imp .inl id
  · have hlt : c.toNat < 0x80 := by
      have := toNat_of_isDigit h
      omega
    simp [continuesWord, isAlphanumeric, isNumeric, hlt, h]

theorem continuesWord_break {rest : List Char} (h : Breaks rest) :
    ∀ c ∈ rest.head?, continuesWord c = false :=
  h.head_false (by decide)

theorem takeWhile_run {p : Char → Bool} {run rest : List Char} (hrun : ∀ c ∈ run, p c = true)
    (hrest : ∀ c ∈ rest.head?, p c = false) :
    (run ++ rest).takeWhile p = run ∧ (run ++ rest).dropWhile p = rest := by
  rw [List.takeWhile_append_of_pos hrun, List.dropWhile_append_of_pos hrun]
  cases rest with
  | nil => simp
  | cons c cs =>
    have hc : p c = false := hrest c rfl
    rw [List.takeWhile_cons_of_neg (by simp [hc]), List.dropWhile_cons_of_neg (by simp [hc])]
    simp

/-- What begins a word is an ASCII letter or an underscore, or a letter beyond ASCII. -/
theorem startsWord_cases {c : Char} (h : startsWord c = true) :
    isIdentifierStart c = true ∨ 0x80 ≤ c.toNat ∧ within alphabeticBounds c.toNat = true := by
  simp only [startsWord, Bool.or_eq_true] at h
  rcases h with h | h
  · rw [isAlphabetic] at h
    split at h
    · exact .inl (by simp [isIdentifierStart, h])
    · next hlarge => exact .inr ⟨by omega, h⟩
  · exact .inl (by simp [isIdentifierStart, h])

theorem toNat_of_startsWord {c : Char} (h : startsWord c = true) :
    65 ≤ c.toNat ∧ c.toNat ≠ 96 := by
  rcases startsWord_cases h with h | ⟨hlarge, -⟩
  · have hrange := toNat_of_isIdentifierStart h
    omega
  · omega

theorem isBlank_of_startsWord {c : Char} (h : startsWord c = true) : isBlank c = false :=
  isBlank_eq_false_of (by decide +kernel) h

/-- A letter or underscore begins no token but a word. -/
theorem scan_startsWord {c : Char} (hc : startsWord c = true) (cs : List Char) :
    scan c cs = .ok (.word (String.ofList (c :: cs.takeWhile continuesWord)),
      cs.dropWhile continuesWord) := by
  have hrange := toNat_of_startsWord hc
  have hdigit : c.isDigit = false := by
    apply Bool.eq_false_iff.2
    intro h
    have := toNat_of_isDigit h
    omega
  have hne : ∀ d : Char, d.toNat < 65 ∨ d.toNat = 96 → c ≠ d := by
    intro d hd
    apply ne_of_toNat_ne
    omega
  have hnumber : startsNumber c cs = false := by
    have hhyphen : (c == '-') = false := beq_false_of_ne (hne '-' (by decide))
    simp only [startsNumber, hdigit, hhyphen, Bool.false_or, Bool.false_and]
  rw [scan, if_neg (hne ',' (by decide)), if_neg (hne '(' (by decide)),
    if_neg (hne ')' (by decide)), if_neg (hne '*' (by decide)),
    if_neg (not_or.2 ⟨hne '\'' (by decide), hne '"' (by decide)⟩),
    if_neg (hne '\x60' (by decide)), hnumber, hc]
  rfl

/-- A word of letters, digits and underscores, of whatever script. -/
theorem lexes_word {c : Char} {cs : List Char} (hc : startsWord c = true)
    (hcs : ∀ d ∈ cs, continuesWord d = true) :
    Lexes (c :: cs) [.word (String.ofList (c :: cs))] := by
  apply Lexes.of_scan (isBlank_of_startsWord hc)
  intro rest hrest
  have hrun := takeWhile_run hcs (continuesWord_break hrest)
  rw [scan_startsWord hc, hrun.1, hrun.2]

/-- A word of ASCII letters, digits and underscores. -/
theorem lexes_identifier {c : Char} {cs : List Char} (hc : isIdentifierStart c = true)
    (hcs : cs.all (fun d => isIdentifierStart d || d.isDigit) = true) :
    Lexes (c :: cs) [.word (String.ofList (c :: cs))] :=
  lexes_word (startsWord_of_isIdentifierStart hc) fun _ hd =>
    continuesWord_of_isIdentifier (List.all_eq_true.1 hcs _ hd)

theorem lexes_keyword (keyword : Keyword) :
    Lexes keyword.text.toList [.word keyword.text] := by
  cases keyword <;> exact lexes_identifier (by decide) (by decide)

/-! ## Quoted texts -/

/-- The token of a name: a word if it is a plain identifier. -/
def nameToken (name : String) : Token :=
  if isPlainName name.toList then .word name else .quoted name

theorem quote_not_next {quote : Char} (hquote : isBreak quote = false) {rest : List Char}
    (hrest : Breaks rest) : ∀ r, rest ≠ quote :: r := by
  rintro r rfl
  rw [breaks_cons, hquote] at hrest
  cases hrest

theorem scan_backQuote (cs : List Char) :
    scan backQuote cs = match Quoted.read backQuote cs with
      | some (s, rest) => .ok (.quoted (String.ofList s), rest)
      | none => .error .unterminated := rfl

theorem scan_singleQuote (cs : List Char) :
    scan '\'' cs = match Quoted.read '\'' cs with
      | some (s, rest) => .ok (.text (String.ofList s), rest)
      | none => .error .unterminated := rfl

theorem lexes_name (name : String) : Lexes (nameChars name) [nameToken name] := by
  rw [nameChars, nameToken]
  split
  · next hplain =>
    cases hcs : name.toList with
    | nil => rw [hcs] at hplain; cases hplain
    | cons c cs =>
      rw [hcs] at hplain
      simp only [isPlainName, Bool.and_eq_true] at hplain
      have hword := lexes_identifier hplain.1.1 hplain.1.2
      rwa [show String.ofList (c :: cs) = name by rw [← hcs, String.ofList_toList]] at hword
  · apply Lexes.of_scan (by decide)
    intro rest hrest
    have hread := Quoted.read_encode (show backQuote ≠ '\\' by decide) name.toList rest
      (quote_not_next (by decide) hrest)
    show scan backQuote ((Quoted.encode backQuote name.toList ++ [backQuote]) ++ rest) = _
    rw [List.append_assoc, List.singleton_append, scan_backQuote, hread]
    simp only [String.ofList_toList]

theorem lexes_text (s : String) : Lexes (textChars s) [.text s] := by
  apply Lexes.of_scan (by decide)
  intro rest hrest
  have hread := Quoted.read_encode (show '\'' ≠ '\\' by decide) s.toList rest
    (quote_not_next (by decide) hrest)
  show scan '\'' ((Quoted.encode '\'' s.toList ++ ['\'']) ++ rest) = _
  rw [List.append_assoc, List.singleton_append, scan_singleQuote, hread]
  simp only [String.ofList_toList]

/-! ## Numbers -/

/-- The run of a number takes the characters and stops behind them. -/
def RunsOn (cs : List Char) : Prop :=
  ∀ (previous : Char) (rest : List Char), Breaks rest →
    numberRun previous (cs ++ rest) = (cs, rest)

theorem RunsOn.nil : RunsOn [] := by
  intro previous rest hrest
  cases rest with
  | nil => rfl
  | cons c cs =>
    have hstop : continuesNumber previous c = false := by
      rcases isBreak_iff.1 (breaks_cons.1 hrest) with rfl | rfl | rfl | rfl <;> rfl
    rw [List.nil_append, numberRun, hstop]
    rfl

theorem RunsOn.cons {c : Char} {cs : List Char}
    (hc : ∀ previous, continuesNumber previous c = true) (h : RunsOn cs) : RunsOn (c :: cs) := by
  intro previous rest hrest
  rw [List.cons_append, numberRun, hc, h c rest hrest]
  rfl

theorem continuesNumber_mantissa {c : Char} (hc : c.isDigit = true ∨ c = '.')
    (previous : Char) : continuesNumber previous c = true := by
  rcases hc with hc | rfl
  · simp [continuesNumber, hc]
  · rfl

theorem RunsOn.mantissa {cs more : List Char} (hcs : ∀ c ∈ cs, c.isDigit = true ∨ c = '.')
    (h : RunsOn more) : RunsOn (cs ++ more) := by
  induction cs with
  | nil => exact h
  | cons c cs ih =>
    exact (ih fun d hd => hcs d (List.mem_cons_of_mem _ hd)).cons
      (continuesNumber_mantissa (hcs c List.mem_cons_self))

theorem RunsOn.digits {cs : List Char} (hcs : ∀ c ∈ cs, c.isDigit = true) : RunsOn cs := by
  have h := RunsOn.nil.mantissa (fun c hc => .inl (hcs c hc))
  rwa [List.append_nil] at h

/-- A sign goes on with a number behind the letter of the exponent only. -/
theorem RunsOn.exponent {sign : Char} {cs : List Char} (hsign : sign = '+' ∨ sign = '-')
    (h : RunsOn cs) : RunsOn ('e' :: sign :: cs) := by
  intro previous rest hrest
  have hletter : continuesNumber previous 'e' = true := by simp [continuesNumber]
  have hcontinues : continuesNumber 'e' sign = true := by
    rcases hsign with rfl | rfl <;> rfl
  rw [List.cons_append, List.cons_append, numberRun, hletter, numberRun, hcontinues,
    h sign rest hrest]
  rfl

theorem runsOn_numberRest {cs : List Char} (h : Binary64.NumberRest cs) : RunsOn cs := by
  cases h with
  | plain hmantissa _ =>
    have h := RunsOn.nil.mantissa hmantissa
    rwa [List.append_nil] at h
  | scaled hmantissa hsign hdigits =>
    exact ((RunsOn.digits hdigits).exponent hsign).mantissa hmantissa

/-- The characters of a number: a digit, behind a hyphen or not, and what goes on with it. -/
inductive NumberChars : List Char → Prop where
  | positive {c cs} (hc : c.isDigit = true) (hcs : RunsOn cs) : NumberChars (c :: cs)
  | negative {c cs} (hc : c.isDigit = true) (hcs : RunsOn cs) : NumberChars ('-' :: c :: cs)

theorem numberChars_intDigits (n : Int) : NumberChars (intDigits n) := by
  have hshape : ∀ n, ∃ c cs, natDigits n = c :: cs ∧ c.isDigit = true ∧ RunsOn cs := by
    intro n
    have hdigits : ∀ c ∈ natDigits n, c.isDigit = true := fun _ => isDigit_of_mem_natDigits
    cases hn : natDigits n with
    | nil => exact absurd hn (natDigits_ne_nil n)
    | cons c cs =>
      rw [hn] at hdigits
      exact ⟨c, cs, rfl, hdigits c List.mem_cons_self,
        .digits fun d hd => hdigits d (List.mem_cons_of_mem _ hd)⟩
  cases n with
  | ofNat n =>
    obtain ⟨c, cs, hchars, hc, hcs⟩ := hshape n
    rw [intDigits, hchars]
    exact .positive hc hcs
  | negSucc n =>
    obtain ⟨c, cs, hchars, hc, hcs⟩ := hshape (n + 1)
    rw [intDigits, hchars]
    exact .negative hc hcs

theorem numberChars_float (x : Binary64) : NumberChars x.chars := by
  obtain ⟨c, cs, hchars, hc, hcs⟩ := Binary64.magnitudeChars_shape x.code
  rw [Binary64.chars_eq, hchars]
  split
  · exact .negative hc (runsOn_numberRest hcs)
  · exact .positive hc (runsOn_numberRest hcs)

theorem NumberChars.startsNumber {c : Char} {cs : List Char} (h : NumberChars (c :: cs))
    (rest : List Char) : startsNumber c (cs ++ rest) = true := by
  cases h with
  | positive hc _ => simp [Gql.startsNumber, hc]
  | negative hc _ => simp [Gql.startsNumber, hc]

theorem NumberChars.runsOn {c : Char} {cs : List Char} (h : NumberChars (c :: cs)) :
    RunsOn cs := by
  cases h with
  | positive _ hcs => exact hcs
  | negative hc hcs => exact hcs.cons (continuesNumber_mantissa (.inl hc))

theorem NumberChars.toNat_head {c : Char} {cs : List Char} (h : NumberChars (c :: cs)) :
    c.toNat = 45 ∨ 48 ≤ c.toNat ∧ c.toNat ≤ 57 := by
  cases h with
  | positive hc _ => exact .inr (toNat_of_isDigit hc)
  | negative => exact .inl rfl

/-- The characters of a number are the token of the number that is read of them. -/
theorem NumberChars.lexes {cs : List Char} {n : JsonNumber} (h : NumberChars cs)
    (hread : readNumber? cs = some n) : Lexes cs [.number n] := by
  cases cs with
  | nil => cases h
  | cons c cs =>
    have hrange := h.toNat_head
    have hne : ∀ d : Char, d.toNat < 45 ∨ d.toNat = 96 → c ≠ d := by
      intro d hd
      apply ne_of_toNat_ne
      omega
    apply Lexes.of_scan (isBlank_eq_false (by omega))
    intro rest hrest
    rw [scan, if_neg (hne ',' (by decide)), if_neg (hne '(' (by decide)),
      if_neg (hne ')' (by decide)), if_neg (hne '*' (by decide)),
      if_neg (not_or.2 ⟨hne '\'' (by decide), hne '"' (by decide)⟩),
      if_neg (hne '\x60' (by decide)), h.startsNumber, h.runsOn c rest hrest]
    simp only [if_true, hread]

theorem lexes_number (n : JsonNumber) : Lexes n.chars [.number n.reread] := by
  refine NumberChars.lexes ?_ n.readNumber?_chars
  cases n with
  | integer n => exact numberChars_intDigits n.val
  | float x => exact numberChars_float x

/-! ## Operators -/

/-- No break makes a longer operator of the one before it. -/
theorem scanOperator_chars (op : Operator) {rest : List Char} (hrest : Breaks rest) :
    scanOperator (op.chars ++ rest) = some (op, rest) := by
  cases rest with
  | nil => cases op <;> rfl
  | cons c cs =>
    rcases isBreak_iff.1 (breaks_cons.1 hrest) with rfl | rfl | rfl | rfl <;> cases op <;> rfl

/-- The four characters of operators begin no other token. -/
theorem scan_operatorStart {c : Char} (hc : c = '=' ∨ c = '<' ∨ c = '>' ∨ c = '!')
    (cs : List Char) :
    scan c cs = match scanOperator (c :: cs) with
      | some (op, rest) => .ok (.operator op, rest)
      | none => .error .unexpected := by
  rcases hc with rfl | rfl | rfl | rfl <;> rfl

theorem lexes_operator (op : Operator) : Lexes op.chars [.operator op] := by
  have hscan : ∀ {c cs}, op.chars = c :: cs → (c = '=' ∨ c = '<' ∨ c = '>' ∨ c = '!') →
      ∀ rest, Breaks rest → scan c (cs ++ rest) = .ok (.operator op, rest) := by
    intro c cs hchars hc rest hrest
    have hop := scanOperator_chars op hrest
    rw [hchars, List.cons_append] at hop
    rw [scan_operatorStart hc, hop]
  cases op <;> exact Lexes.of_scan (by decide) (hscan rfl (by decide))

end EntityQuery.Gql
