import EntityQuery.Json.Basic
import EntityQuery.Number.Scaled

/-!
# Lexemes of JSON text

`lexemes?` cuts JSON text into punctuation, words, numbers and strings.  White
space between them is the space, the tab and the two line ends.

A string whose escapes leave half a surrogate pair and a number beyond the
largest finite one are well-formed but hold no value: their lexemes hold
`none`.  Readers that skip a value accept them, readers that want it do not.
-/

namespace EntityQuery.Json

open EntityQuery.Text

/-- A lexeme of JSON text. -/
inductive Lexeme where
  | openArray
  | closeArray
  | openObject
  | closeObject
  | comma
  | colon
  | null
  | bool (b : Bool)
  | number (n : Option JsonNumber)
  | string (s : Option String)

/-! ## Strings -/

/-- What a string is made of: characters, and halves of surrogate pairs from escapes. -/
inductive StringPart where
  | char (c : Char)
  | half (n : Nat)

/-- The value of a hexadecimal digit. -/
def hexValue? (c : Char) : Option Nat :=
  if c.isDigit then some (digitValue c)
  else if 'a' ≤ c ∧ c ≤ 'f' then some (c.toNat - 'a'.toNat + 10)
  else if 'A' ≤ c ∧ c ≤ 'F' then some (c.toNat - 'A'.toNat + 10)
  else none

/-- The string part of a code unit. -/
def StringPart.ofUnit (n : Nat) : StringPart :=
  if 0xD800 ≤ n ∧ n ≤ 0xDFFF then .half n else .char (Char.ofNat n)

/-- The string part of four hexadecimal digits. -/
def StringPart.ofHex? (a b c d : Char) : Option StringPart := do
  let a ← hexValue? a
  let b ← hexValue? b
  let c ← hexValue? c
  let d ← hexValue? d
  some (.ofUnit (((a * 16 + b) * 16 + c) * 16 + d))

/-- The character of a one-letter escape. -/
def unescape? : Char → Option Char
  | '"' => some '"'
  | '\\' => some '\\'
  | '/' => some '/'
  | 'b' => some '\x08'
  | 'f' => some '\x0C'
  | 'n' => some '\x0A'
  | 'r' => some '\x0D'
  | 't' => some '\x09'
  | _ => none

/-- The parts of a string after its opening quote, and what follows the closing quote. -/
def stringParts? : List Char → Option (List StringPart × List Char)
  | [] => none
  | '"' :: rest => some ([], rest)
  | '\\' :: 'u' :: a :: b :: c :: d :: rest =>
    match StringPart.ofHex? a b c d, stringParts? rest with
    | some part, some (parts, rest) => some (part :: parts, rest)
    | _, _ => none
  | '\\' :: e :: rest =>
    match unescape? e, stringParts? rest with
    | some c, some (parts, rest) => some (.char c :: parts, rest)
    | _, _ => none
  | c :: rest =>
    if c = '\\' ∨ c.toNat < 0x20 then none
    else (stringParts? rest).map fun (parts, rest) => (.char c :: parts, rest)

/-- The characters of string parts: a high half and the low half after it are one character,
and other halves have none. -/
def joinParts? : List StringPart → Option (List Char)
  | [] => some []
  | .char c :: parts => (joinParts? parts).map (c :: ·)
  | .half high :: .half low :: parts =>
    if high < 0xDC00 ∧ 0xDC00 ≤ low then
      (joinParts? parts).map
        (Char.ofNat (0x10000 + (high - 0xD800) * 0x400 + (low - 0xDC00)) :: ·)
    else none
  | .half _ :: _ => none

/-! ## Numbers -/

/-- A decimal number whose digits are taken in as long as they fit 64 bits. -/
structure Significand where
  digits : Nat
  exponent : Int

/-- The significand with one more whole digit, or with a zero in its place once a digit did not
fit. -/
def Significand.wholeDigit (s : Significand) (c : Char) : Significand :=
  if s.exponent = 0 ∧ 10 * s.digits + digitValue c ≤ 18446744073709551615 then
    ⟨10 * s.digits + digitValue c, 0⟩
  else ⟨s.digits, s.exponent + 1⟩

/-- The significand with more fraction digits, up to the first that does not fit. -/
def Significand.fractionDigits (s : Significand) : List Char → Significand
  | [] => s
  | c :: cs =>
    if 10 * s.digits + digitValue c ≤ 18446744073709551615 then
      fractionDigits ⟨10 * s.digits + digitValue c, s.exponent - 1⟩ cs
    else s

/-- The written parts of a number. -/
structure NumberParts where
  negative : Bool
  whole : List Char
  fraction : Option (List Char)
  exponent : Option Int

/-- The digits after a point, and what follows them. -/
def fractionPart? : List Char → Option (Option (List Char) × List Char)
  | '.' :: cs =>
    match splitDigits cs with
    | ([], _) => none
    | (digits, rest) => some (some digits, rest)
  | cs => some (none, cs)

/-- The exponent digits after their sign, and what follows them. -/
def exponentDigits? (negative : Bool) (cs : List Char) : Option (Option Int × List Char) :=
  match splitDigits cs with
  | ([], _) => none
  | (digits, rest) =>
    let n : Int := foldDigits 0 digits
    some (some (if negative then -n else n), rest)

/-- The exponent after its letter, and what follows it. -/
def signedExponent? : List Char → Option (Option Int × List Char)
  | '+' :: cs => exponentDigits? false cs
  | '-' :: cs => exponentDigits? true cs
  | cs => exponentDigits? false cs

/-- The exponent of a number if it has one, and what follows it. -/
def exponentPart? : List Char → Option (Option Int × List Char)
  | 'e' :: cs => signedExponent? cs
  | 'E' :: cs => signedExponent? cs
  | cs => some (none, cs)

/-- The parts of a number without its sign, and what follows it.  The whole digits begin with
a zero only if they are a zero. -/
def unsignedParts? (negative : Bool) (cs : List Char) : Option (NumberParts × List Char) :=
  match splitDigits cs with
  | ([], _) => none
  | ('0' :: _ :: _, _) => none
  | (whole, rest) => do
    let (fraction, rest) ← fractionPart? rest
    let (exponent, rest) ← exponentPart? rest
    some (⟨negative, whole, fraction, exponent⟩, rest)

/-- The parts of a number, and what follows it. -/
def numberParts? : List Char → Option (NumberParts × List Char)
  | '-' :: cs => unsignedParts? true cs
  | cs => unsignedParts? false cs

/-- The integer of a number without fraction and exponent, if it fits 64 bits.  A negative zero
is no integer. -/
def NumberParts.integer? (p : NumberParts) : Option JsonInt :=
  if p.fraction.isSome || p.exponent.isSome then none
  else
    let n : Int := foldDigits 0 p.whole
    if p.negative then (if n = 0 then none else JsonInt.ofInt? (-n)) else JsonInt.ofInt? n

/-- The number that the parts stand for: an integer if they are one, and else a float, unless it
is beyond the largest finite one. -/
def NumberParts.number? (p : NumberParts) : Option JsonNumber :=
  match p.integer? with
  | some n => some (.integer n)
  | none =>
    let s := (p.whole.foldl Significand.wholeDigit ⟨0, 0⟩).fractionDigits (p.fraction.getD [])
    (Binary64.scaled? p.negative s.digits (s.exponent + p.exponent.getD 0)).map .float

/-! ## Text -/

/-- The lexeme of a word that begins with the given letter, and what follows it. -/
def wordLexeme? : List Char → Option (Lexeme × List Char)
  | 'n' :: 'u' :: 'l' :: 'l' :: rest => some (.null, rest)
  | 't' :: 'r' :: 'u' :: 'e' :: rest => some (.bool true, rest)
  | 'f' :: 'a' :: 'l' :: 's' :: 'e' :: rest => some (.bool false, rest)
  | _ => none

/-- The lexeme at the front of a text that does not begin with white space, and what follows
it. -/
def lexeme? : List Char → Option (Lexeme × List Char)
  | '[' :: rest => some (.openArray, rest)
  | ']' :: rest => some (.closeArray, rest)
  | '{' :: rest => some (.openObject, rest)
  | '}' :: rest => some (.closeObject, rest)
  | ',' :: rest => some (.comma, rest)
  | ':' :: rest => some (.colon, rest)
  | '"' :: rest =>
    (stringParts? rest).map fun (parts, rest) =>
      (.string ((joinParts? parts).map String.ofList), rest)
  | c :: rest =>
    if c = '-' ∨ c.isDigit then
      (numberParts? (c :: rest)).map fun (parts, rest) => (.number parts.number?, rest)
    else wordLexeme? (c :: rest)
  | [] => none

/-- The characters that may stand between lexemes. -/
def isSpace (c : Char) : Bool := c == ' ' || c == '\x0A' || c == '\x09' || c == '\x0D'

/-! ## Every lexeme shortens the text -/

theorem stringParts?_length {cs rest : List Char} {parts : List StringPart}
    (h : stringParts? cs = some (parts, rest)) : rest.length < cs.length := by
  fun_induction stringParts? cs generalizing parts rest with
  | case1 => simp at h
  | case2 => cases h; simp
  | case3 a b c d tail part parts' rest' hread hpart ih =>
    cases h
    have := ih hread
    simp only [List.length_cons]
    omega
  | case4 => simp at h
  | case5 e tail hne c parts' rest' hread hc ih =>
    cases h
    have := ih hread
    simp only [List.length_cons]
    omega
  | case6 => simp at h
  | case7 => simp at h
  | case8 c tail _ _ _ _ ih =>
    obtain ⟨⟨p, r⟩, hread, heq⟩ := Option.map_eq_some_iff.1 h
    cases heq
    have := ih hread
    simp only [List.length_cons]
    omega

theorem fractionPart?_length {cs rest : List Char} {fraction : Option (List Char)}
    (h : fractionPart? cs = some (fraction, rest)) : rest.length ≤ cs.length := by
  unfold fractionPart? at h
  split at h
  · split at h
    · simp at h
    · next hspan =>
      cases h
      have := splitDigits_length hspan
      simp only [List.length_cons]
      omega
  · cases h; omega

theorem exponentDigits?_length {negative : Bool} {cs rest : List Char} {exponent : Option Int}
    (h : exponentDigits? negative cs = some (exponent, rest)) : rest.length ≤ cs.length := by
  unfold exponentDigits? at h
  split at h
  · simp at h
  · next hspan =>
    cases h
    have := splitDigits_length hspan
    omega

theorem exponentPart?_length {cs rest : List Char} {exponent : Option Int}
    (h : exponentPart? cs = some (exponent, rest)) : rest.length ≤ cs.length := by
  have signed : ∀ {ds : List Char}, signedExponent? ds = some (exponent, rest) →
      rest.length ≤ ds.length := by
    intro ds h
    unfold signedExponent? at h
    split at h
    · have := exponentDigits?_length h; simp only [List.length_cons]; omega
    · have := exponentDigits?_length h; simp only [List.length_cons]; omega
    · exact exponentDigits?_length h
  unfold exponentPart? at h
  split at h
  · have := signed h; simp only [List.length_cons]; omega
  · have := signed h; simp only [List.length_cons]; omega
  · cases h; omega

theorem unsignedParts?_length {negative : Bool} {cs rest : List Char} {parts : NumberParts}
    (h : unsignedParts? negative cs = some (parts, rest)) : rest.length < cs.length := by
  unfold unsignedParts? at h
  split at h
  · simp at h
  · simp at h
  · next whole tail hne _ hspan =>
    have hwhole : 0 < whole.length := List.length_pos_iff.2 hne
    have hlength := splitDigits_length hspan
    simp only [Option.bind_eq_bind, Option.bind_eq_some_iff] at h
    obtain ⟨⟨fraction, tail₁⟩, hfraction, ⟨exponent, tail₂⟩, hexponent, heq⟩ := h
    cases heq
    have hfirst : tail₁.length ≤ tail.length := fractionPart?_length hfraction
    have hsecond : tail₂.length ≤ tail₁.length := exponentPart?_length hexponent
    show tail₂.length < cs.length
    omega

theorem numberParts?_length {cs rest : List Char} {parts : NumberParts}
    (h : numberParts? cs = some (parts, rest)) : rest.length < cs.length := by
  unfold numberParts? at h
  split at h
  · have := unsignedParts?_length h; simp only [List.length_cons]; omega
  · exact unsignedParts?_length h

theorem wordLexeme?_length {cs rest : List Char} {lexeme : Lexeme}
    (h : wordLexeme? cs = some (lexeme, rest)) : rest.length < cs.length := by
  unfold wordLexeme? at h
  split at h
  · cases h; simp only [List.length_cons]; omega
  · cases h; simp only [List.length_cons]; omega
  · cases h; simp only [List.length_cons]; omega
  · simp at h

theorem lexeme?_length {cs rest : List Char} {lexeme : Lexeme}
    (h : lexeme? cs = some (lexeme, rest)) : rest.length < cs.length := by
  unfold lexeme? at h
  split at h
  case h_7 =>
    obtain ⟨⟨parts, tail⟩, hread, heq⟩ := Option.map_eq_some_iff.1 h
    cases heq
    have := stringParts?_length hread
    simp only [List.length_cons]
    omega
  case h_8 =>
    split at h
    · obtain ⟨⟨parts, tail⟩, hread, heq⟩ := Option.map_eq_some_iff.1 h
      cases heq
      exact numberParts?_length hread
    · exact wordLexeme?_length h
  case h_9 => simp at h
  all_goals cases h; simp

/-- The lexemes of a text. -/
def lexemes? : List Char → Option (List Lexeme)
  | [] => some []
  | c :: cs =>
    if isSpace c then lexemes? cs
    else
      match _h : lexeme? (c :: cs) with
      | none => none
      | some (lexeme, rest) => (lexemes? rest).map (lexeme :: ·)
termination_by cs => cs.length
decreasing_by
  · simp
  · exact lexeme?_length (by assumption)

theorem lexemes?_nil : lexemes? [] = some [] := by
  rw [lexemes?]

theorem lexemes?_cons {c : Char} {cs rest : List Char} {lexeme : Lexeme}
    (hspace : isSpace c = false) (h : lexeme? (c :: cs) = some (lexeme, rest)) :
    lexemes? (c :: cs) = (lexemes? rest).map (lexeme :: ·) := by
  rw [lexemes?, hspace, if_neg Bool.false_ne_true]
  split
  · next hnone =>
    rw [h] at hnone
    cases hnone
  · next hsome =>
    rw [h] at hsome
    cases hsome
    rfl

end EntityQuery.Json
