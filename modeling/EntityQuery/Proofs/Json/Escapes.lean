import EntityQuery.Json.Lexeme

/-!
# Strings of JSON text

JSON text may write a character of a string by a letter behind a backslash, by its number in
hexadecimal digits, or as it is.  Writers differ in which characters they escape; to the reader
that makes no difference.

* Characters.  `Writes` says how a character may be written, and `Writes.stringParts?_append`
  reads it, whatever follows.
* Strings.  `lexeme?_string` reads a string in quotes of which every character is written so, and
  `lexemes?_string` goes on behind it.
-/

namespace EntityQuery.Json

open EntityQuery.Text

/-! ## Hexadecimal digits -/

/-- Small numbers have two hexadecimal digits behind two zeros. -/
theorem padded_hexDigits {n : Nat} (h : n < 256) :
    List.replicate (4 - (hexDigits n).length) '0' ++ hexDigits n =
      ['0', '0', Nat.digitChar (n / 16), Nat.digitChar (n % 16)] := by
  unfold hexDigits
  by_cases hsmall : n < 16
  · rw [Nat.toDigits_of_lt_base hsmall, Nat.div_eq_of_lt hsmall, Nat.mod_eq_of_lt hsmall]
    rfl
  · have hquotient : n / 16 < 16 := by omega
    rw [Nat.toDigits_of_base_le (by decide) (by omega), Nat.toDigits_of_lt_base hquotient]
    rfl

theorem hexValue?_digitChar : ∀ d < 16, hexValue? (Nat.digitChar d) = some d := by decide

/-- Four digits behind two zeros are read as the character of their number. -/
theorem ofHex?_digits {c : Char} (h : c.toNat < 256) :
    StringPart.ofHex? '0' '0' (Nat.digitChar (c.toNat / 16)) (Nat.digitChar (c.toNat % 16)) =
      some (.char c) := by
  have hzero : hexValue? '0' = some 0 := by decide
  have hhigh := hexValue?_digitChar (c.toNat / 16) (by omega)
  have hlow := hexValue?_digitChar (c.toNat % 16) (by omega)
  have hvalue : ((0 * 16 + 0) * 16 + c.toNat / 16) * 16 + c.toNat % 16 = c.toNat := by omega
  simp only [StringPart.ofHex?, hzero, hhigh, hlow, Option.bind_eq_bind, Option.bind_some, hvalue]
  rw [StringPart.ofUnit, if_neg (by omega), Char.ofNat_toNat]

/-! ## Characters -/

/-- The characters write one character of a string: by a letter, by its number, or as it is. -/
inductive Writes : List Char → Char → Prop where
  | letter {e c : Char} (hu : e ≠ 'u') (he : unescape? e = some c) : Writes ['\\', e] c
  | number {c : Char} (hsmall : c.toNat < 256) :
    Writes ['\\', 'u', '0', '0', Nat.digitChar (c.toNat / 16), Nat.digitChar (c.toNat % 16)] c
  | plain {c : Char} (hlarge : 0x20 ≤ c.toNat) (hquote : c ≠ '"') (hslash : c ≠ '\\') :
    Writes [c] c

/-- A written character is read as itself, whatever follows it. -/
theorem Writes.stringParts?_append {cs : List Char} {c : Char} (h : Writes cs c)
    (rest : List Char) :
    stringParts? (cs ++ rest) =
      (stringParts? rest).map fun (parts, rest) => (.char c :: parts, rest) := by
  cases h with
  | @letter e _ hu he =>
    show stringParts? ('\\' :: e :: rest) = _
    rw [stringParts?.eq_4 _ _ (fun _ _ _ _ _ h _ => hu h), he]
    cases stringParts? rest <;> rfl
  | number hsmall =>
    show stringParts? ('\\' :: 'u' :: '0' :: '0' :: _ :: _ :: rest) = _
    rw [stringParts?.eq_3, ofHex?_digits hsmall]
    cases stringParts? rest <;> rfl
  | plain hlarge hquote hslash =>
    show stringParts? (c :: rest) = _
    rw [stringParts?.eq_5 _ _ hquote (fun _ _ _ _ _ h _ => hslash h) (fun _ _ h _ => hslash h),
      if_neg (not_or.2 ⟨hslash, by omega⟩)]

/-! ## Strings -/

section Strings

variable {escape : Char → List Char}

theorem stringParts?_flatMap (h : ∀ c, Writes (escape c) c) (cs rest : List Char) :
    stringParts? (cs.flatMap escape ++ '"' :: rest) = some (cs.map .char, rest) := by
  induction cs with
  | nil => rw [List.flatMap_nil, List.nil_append, stringParts?.eq_2]; rfl
  | cons c cs ih =>
    rw [List.flatMap_cons, List.append_assoc, (h c).stringParts?_append, ih]
    rfl

theorem joinParts?_map_char (cs : List Char) : joinParts? (cs.map .char) = some cs := by
  induction cs with
  | nil => rfl
  | cons c cs ih =>
    rw [List.map_cons, joinParts?, ih]
    rfl

/-- A string in quotes is read as itself, whatever follows it. -/
theorem lexeme?_string (h : ∀ c, Writes (escape c) c) (s : String) (rest : List Char) :
    lexeme? ('"' :: (s.toList.flatMap escape ++ '"' :: rest)) = some (.string (some s), rest) := by
  rw [lexeme?.eq_7, stringParts?_flatMap h]
  simp only [Option.map_some, joinParts?_map_char, String.ofList_toList]

theorem lexemes?_string (h : ∀ c, Writes (escape c) c) (s : String) (rest : List Char) :
    lexemes? ('"' :: (s.toList.flatMap escape ++ '"' :: rest)) =
      (lexemes? rest).map (.string (some s) :: ·) :=
  lexemes?_cons (by decide) (lexeme?_string h s rest)

end Strings

end EntityQuery.Json
