import EntityQuery.Json.Source
import EntityQuery.Json.Writer
import EntityQuery.Proofs.Json.Escapes
import EntityQuery.Proofs.Text.Decimal

/-!
# JSON text read back

The text of a value without floats is read as the value.  Only the order of members is not kept:
the reader puts those of every object in ascending order of their names.

* Strings and integers.  `lexemes?_stringChars` and `lexemes?_intDigits` read one lexeme, the
  latter where no character follows that goes on with a number.
* Lexemes.  `cuts_chars` cuts the text of a value into its lexemes, `textLexemes`.
* Sources.  `start?_textLexemes` makes the value as written of them, `written`.
* Values.  `toJson?_written` makes the value of that, with its members in order: `arranged`.
* The result.  `read?_text` puts the three together.
-/

namespace EntityQuery.Json

open EntityQuery.Text

/-! ## Strings -/

theorem padded_fourHexDigits {n : Nat} (h : n < 256) :
    fourHexDigits n = ['0', '0', Nat.digitChar (n / 16), Nat.digitChar (n % 16)] :=
  padded_hexDigits h

/-- However a character is escaped, it is read as itself. -/
theorem writes_escapeChar (c : Char) : Writes (escapeChar c) c := by
  unfold escapeChar
  split
  · exact .letter (by decide) rfl
  · exact .letter (by decide) rfl
  · exact .letter (by decide) rfl
  · exact .letter (by decide) rfl
  · exact .letter (by decide) rfl
  · exact .letter (by decide) rfl
  · exact .letter (by decide) rfl
  · next hquote hslash _ _ _ _ _ =>
    split
    · next hsmall =>
      have hlt : c.toNat < 256 := by omega
      rw [padded_fourHexDigits hlt]
      exact .number hlt
    · next hsmall => exact .plain (by omega) hquote hslash

theorem lexemes?_stringChars (s : String) (rest : List Char) :
    lexemes? (stringChars s ++ rest) = (lexemes? rest).map (.string (some s) :: ·) := by
  have hchars : stringChars s ++ rest = '"' :: (s.toList.flatMap escapeChar ++ '"' :: rest) := by
    simp [stringChars]
  rw [hchars, lexemes?_string writes_escapeChar]

/-! ## Integers -/

/-- No character follows that goes on with a number: no digit, no point and no exponent. -/
def NumberEnds (rest : List Char) : Prop :=
  ∀ c ∈ rest.head?, c.isDigit = false ∧ c ≠ '.' ∧ c ≠ 'e' ∧ c ≠ 'E'

theorem numberEnds_nil : NumberEnds [] := by simp [NumberEnds]

theorem NumberEnds.fractionPart? {rest : List Char} (h : NumberEnds rest) :
    fractionPart? rest = some (none, rest) := by
  cases rest with
  | nil => rfl
  | cons c cs =>
    have hc := h c rfl
    unfold Json.fractionPart?
    split
    · next heq => cases heq; exact absurd rfl hc.2.1
    · rfl

theorem NumberEnds.exponentPart? {rest : List Char} (h : NumberEnds rest) :
    exponentPart? rest = some (none, rest) := by
  cases rest with
  | nil => rfl
  | cons c cs =>
    have hc := h c rfl
    unfold Json.exponentPart?
    split
    · next heq => cases heq; exact absurd rfl hc.2.2.1
    · next heq => cases heq; exact absurd rfl hc.2.2.2
    · rfl

/-- The digits of a number are whole digits: none but those of zero begin with a zero. -/
theorem unsignedParts?_natDigits (negative : Bool) (n : Nat) {rest : List Char}
    (h : NumberEnds rest) :
    unsignedParts? negative (natDigits n ++ rest) =
      some (⟨negative, natDigits n, none, none⟩, rest) := by
  have hsplit : splitDigits (natDigits n ++ rest) = (natDigits n, rest) :=
    splitDigits_append (fun _ => isDigit_of_mem_natDigits) fun c hc => (h c hc).1
  unfold unsignedParts?
  rw [hsplit]
  split
  · next heq => exact absurd (congrArg Prod.fst heq) (natDigits_ne_nil n)
  · next heq => exact absurd (congrArg Prod.fst heq) (natDigits_ne_zero_cons n)
  · next heq =>
    cases heq
    simp only [h.fractionPart?, h.exponentPart?, Option.bind_eq_bind, Option.bind_some]

/-- The text of an integer begins with a hyphen or a digit. -/
theorem intDigits_head (n : Int) :
    ∃ c cs, intDigits n = c :: cs ∧ (c = '-' ∨ c.isDigit = true) := by
  cases n with
  | ofNat n =>
    obtain ⟨d, ds, hdigits⟩ := List.exists_cons_of_ne_nil (natDigits_ne_nil n)
    exact ⟨d, ds, hdigits, .inr (isDigit_of_mem_natDigits (hdigits ▸ List.mem_cons_self))⟩
  | negSucc n => exact ⟨'-', _, rfl, .inl rfl⟩

theorem numberParts?_intDigits (n : Int) {rest : List Char} (h : NumberEnds rest) :
    numberParts? (intDigits n ++ rest) =
      some (⟨decide (n < 0), natDigits n.natAbs, none, none⟩, rest) := by
  cases n with
  | ofNat n =>
    have hunsigned : numberParts? (natDigits n ++ rest) =
        unsignedParts? false (natDigits n ++ rest) := by
      obtain ⟨d, ds, hdigits⟩ := List.exists_cons_of_ne_nil (natDigits_ne_nil n)
      have hd : d.isDigit = true := isDigit_of_mem_natDigits (hdigits ▸ List.mem_cons_self)
      rw [hdigits]
      unfold numberParts?
      split
      · next heq =>
        cases heq
        exact absurd hd (by decide)
      · rfl
    exact hunsigned.trans (unsignedParts?_natDigits false n h)
  | negSucc n =>
    have hsign : decide (Int.negSucc n < 0) = true := decide_eq_true (Int.negSucc_lt_zero n)
    rw [hsign]
    exact unsignedParts?_natDigits true (n + 1) h

/-- The parts of an integer are those of the integer. -/
theorem number?_intDigits (i : JsonInt) :
    (⟨decide (i.val < 0), natDigits i.val.natAbs, none, none⟩ : NumberParts).number? =
      some (.integer i) := by
  have hi : JsonInt.ofInt? i.val = some i := dif_pos ⟨i.lower, i.upper⟩
  have hinteger : (⟨decide (i.val < 0), natDigits i.val.natAbs, none, none⟩ :
      NumberParts).integer? = some i := by
    unfold NumberParts.integer?
    simp only [Option.isSome_none, Bool.or_self, Bool.false_eq_true, if_false,
      foldDigits_natDigits, decide_eq_true_eq]
    by_cases hsign : i.val < 0
    · have habs : -(i.val.natAbs : Int) = i.val := by omega
      rw [if_pos hsign, if_neg (by omega), habs, hi]
    · have habs : (i.val.natAbs : Int) = i.val := by omega
      rw [if_neg hsign, habs, hi]
  rw [NumberParts.number?, hinteger]

theorem ne_of_hyphen_or_digit {c d : Char} (hc : c = '-' ∨ c.isDigit = true) (hhyphen : d ≠ '-')
    (hdigit : d.isDigit = false) : c ≠ d := by
  rintro rfl
  rcases hc with hc | hc
  · exact hhyphen hc
  · rw [hdigit] at hc
    cases hc

/-- A hyphen or a digit begins no lexeme but a number. -/
theorem lexeme?_number {c : Char} {cs rest : List Char} {parts : NumberParts}
    (hc : c = '-' ∨ c.isDigit = true) (h : numberParts? (c :: cs) = some (parts, rest)) :
    lexeme? (c :: cs) = some (.number parts.number?, rest) := by
  have hne : ∀ d, d ≠ '-' → d.isDigit = false → c ≠ d := fun _ => ne_of_hyphen_or_digit hc
  rw [lexeme?.eq_8 _ _ (hne '[' (by decide) (by decide)) (hne ']' (by decide) (by decide))
    (hne '\x7b' (by decide) (by decide)) (hne '\x7d' (by decide) (by decide))
    (hne ',' (by decide) (by decide)) (hne ':' (by decide) (by decide))
    (hne '"' (by decide) (by decide)), if_pos hc, h]
  rfl

/-- An integer is read as itself, if no character follows that goes on with it. -/
theorem lexemes?_intDigits (i : JsonInt) {rest : List Char} (h : NumberEnds rest) :
    lexemes? (intDigits i.val ++ rest) =
      (lexemes? rest).map (.number (some (.integer i)) :: ·) := by
  have hparts := numberParts?_intDigits i.val h
  obtain ⟨c, cs, hdigits, hc⟩ := intDigits_head i.val
  rw [hdigits, List.cons_append] at hparts ⊢
  have hne : ∀ d, d ≠ '-' → d.isDigit = false → c ≠ d := fun _ => ne_of_hyphen_or_digit hc
  have hspace : isSpace c = false := by
    simp only [isSpace, Bool.or_eq_false_iff, beq_eq_false_iff_ne]
    exact ⟨⟨⟨hne ' ' (by decide) (by decide), hne '\x0A' (by decide) (by decide)⟩,
      hne '\x09' (by decide) (by decide)⟩, hne '\x0D' (by decide) (by decide)⟩
  rw [lexemes?_cons hspace (lexeme?_number hc hparts), number?_intDigits]

/-! ## Lexemes -/

mutual

/-- Whether there is no float in the value. -/
def isFloatless : Json → Bool
  | .number (.float _) => false
  | .number (.integer _) | .null | .bool _ | .string _ => true
  | .array items => itemsAreFloatless items
  | .object members => membersAreFloatless members

/-- Whether there is no float in the items. -/
def itemsAreFloatless : List Json → Bool
  | [] => true
  | item :: items => isFloatless item && itemsAreFloatless items

/-- Whether there is no float in the members. -/
def membersAreFloatless : List (String × Json) → Bool
  | [] => true
  | (_, value) :: members => isFloatless value && membersAreFloatless members

end

mutual

/-- The lexemes of the text of a value. -/
def textLexemes : Json → List Lexeme
  | .null => [.null]
  | .bool b => [.bool b]
  | .number n => [.number (some n)]
  | .string s => [.string (some s)]
  | .array [] => [.openArray, .closeArray]
  | .array (item :: items) => .openArray :: textLexemes item ++ itemLexemes items ++ [.closeArray]
  | .object [] => [.openObject, .closeObject]
  | .object ((name, value) :: members) =>
    .openObject :: .string (some name) :: .colon :: textLexemes value ++ memberLexemes members ++
      [.closeObject]

/-- The lexemes of items, each behind a comma. -/
def itemLexemes : List Json → List Lexeme
  | [] => []
  | item :: items => .comma :: textLexemes item ++ itemLexemes items

/-- The lexemes of members, each behind a comma. -/
def memberLexemes : List (String × Json) → List Lexeme
  | [] => []
  | (name, value) :: members =>
    .comma :: .string (some name) :: .colon :: textLexemes value ++ memberLexemes members

end

/-- The characters are cut into the lexemes, if no character follows that goes on with a number. -/
def Cuts (cs : List Char) (lexemes : List Lexeme) : Prop :=
  ∀ rest, NumberEnds rest → lexemes? (cs ++ rest) = (lexemes? rest).map (lexemes ++ ·)

theorem Cuts.nil : Cuts [] [] := fun _ _ => Option.map_id'.symm

/-- A mark is a lexeme of its own, whatever follows it. -/
theorem Cuts.mark_cons {c : Char} {cs : List Char} {lexeme : Lexeme} {lexemes : List Lexeme}
    (hspace : isSpace c = false) (hmark : ∀ rest, lexeme? (c :: rest) = some (lexeme, rest))
    (h : Cuts cs lexemes) : Cuts (c :: cs) (lexeme :: lexemes) := by
  intro rest hrest
  rw [List.cons_append, lexemes?_cons hspace (hmark (cs ++ rest)), h rest hrest, Option.map_map]
  rfl

/-- A piece may follow another one if it does not go on with a number. -/
theorem Cuts.append {cs ds : List Char} {lexemes more : List Lexeme} (h : Cuts cs lexemes)
    (hmore : Cuts ds more) (hends : NumberEnds ds) : Cuts (cs ++ ds) (lexemes ++ more) := by
  intro rest hrest
  have hnext : NumberEnds (ds ++ rest) := by
    cases ds with
    | nil => exact hrest
    | cons d ds => exact hends
  rw [List.append_assoc, h _ hnext, hmore rest hrest, Option.map_map]
  simp only [Function.comp_def, List.append_assoc]

theorem numberEnds_cons {c : Char} (h : c = ',' ∨ c = ':' ∨ c = ']' ∨ c = '\x7d')
    (rest : List Char) : NumberEnds (c :: rest) := by
  intro d hd
  cases hd
  rcases h with rfl | rfl | rfl | rfl <;> decide

theorem Cuts.comma_cons {cs : List Char} {lexemes : List Lexeme} (h : Cuts cs lexemes) :
    Cuts (',' :: cs) (.comma :: lexemes) :=
  h.mark_cons (by decide) fun _ => rfl

theorem Cuts.in_brackets {cs : List Char} {lexemes : List Lexeme} (h : Cuts cs lexemes) :
    Cuts ('[' :: (cs ++ [']'])) (.openArray :: (lexemes ++ [.closeArray])) := by
  have hclose : Cuts [']'] [.closeArray] := Cuts.nil.mark_cons (by decide) fun _ => rfl
  exact (h.append hclose (numberEnds_cons (by decide) [])).mark_cons (by decide) fun _ => rfl

theorem Cuts.in_braces {cs : List Char} {lexemes : List Lexeme} (h : Cuts cs lexemes) :
    Cuts ('\x7b' :: (cs ++ ['\x7d'])) (.openObject :: (lexemes ++ [.closeObject])) := by
  have hclose : Cuts ['\x7d'] [.closeObject] := Cuts.nil.mark_cons (by decide) fun _ => rfl
  exact (h.append hclose (numberEnds_cons (by decide) [])).mark_cons (by decide) fun _ => rfl

theorem cuts_string (s : String) : Cuts (stringChars s) [.string (some s)] :=
  fun rest _ => lexemes?_stringChars s rest

theorem cuts_integer (i : JsonInt) : Cuts (intDigits i.val) [.number (some (.integer i))] :=
  fun _ hrest => lexemes?_intDigits i hrest

/-- A member of an object: its name, a colon and its value. -/
theorem Cuts.member {cs : List Char} {lexemes : List Lexeme} (name : String)
    (h : Cuts cs lexemes) :
    Cuts (stringChars name ++ ':' :: cs) (.string (some name) :: .colon :: lexemes) :=
  (cuts_string name).append (h.mark_cons (by decide) fun _ => rfl) (numberEnds_cons (by decide) cs)

theorem numberEnds_items (items : List Json) : NumberEnds (itemChars items) := by
  cases items with
  | nil => exact numberEnds_nil
  | cons item items => exact numberEnds_cons (.inl rfl) _

theorem numberEnds_members (members : List (String × Json)) : NumberEnds (memberChars members) := by
  cases members with
  | nil => exact numberEnds_nil
  | cons member members => exact numberEnds_cons (.inl rfl) _

mutual

/-- The text of a value is cut into its lexemes. -/
theorem cuts_chars : ∀ {v : Json}, v.isFloatless = true → Cuts v.chars v.textLexemes
  | .null, _ => fun _ _ => lexemes?_cons (by decide) rfl
  | .bool true, _ => fun _ _ => lexemes?_cons (by decide) rfl
  | .bool false, _ => fun _ _ => lexemes?_cons (by decide) rfl
  | .number (.integer i), _ => cuts_integer i
  | .string s, _ => cuts_string s
  | .array [], _ => Cuts.nil.in_brackets
  | .array (item :: items), h => by
    obtain ⟨hitem, hitems⟩ := Bool.and_eq_true_iff.1 h
    have hall := (cuts_chars hitem).append (cuts_itemChars hitems) (numberEnds_items items)
    exact hall.in_brackets
  | .object [], _ => Cuts.nil.in_braces
  | .object ((name, value) :: members), h => by
    obtain ⟨hvalue, hmembers⟩ := Bool.and_eq_true_iff.1 h
    have hall := ((cuts_chars hvalue).member name).append (cuts_memberChars hmembers)
      (numberEnds_members members)
    exact hall.in_braces

/-- The text of items is cut into their lexemes. -/
theorem cuts_itemChars : ∀ {items : List Json}, itemsAreFloatless items = true →
    Cuts (itemChars items) (itemLexemes items)
  | [], _ => .nil
  | item :: items, h => by
    obtain ⟨hitem, hitems⟩ := Bool.and_eq_true_iff.1 h
    have hall := (cuts_chars hitem).append (cuts_itemChars hitems) (numberEnds_items items)
    exact hall.comma_cons

/-- The text of members is cut into their lexemes. -/
theorem cuts_memberChars : ∀ {members : List (String × Json)}, membersAreFloatless members = true →
    Cuts (memberChars members) (memberLexemes members)
  | [], _ => .nil
  | (name, value) :: members, h => by
    obtain ⟨hvalue, hmembers⟩ := Bool.and_eq_true_iff.1 h
    have hall := ((cuts_chars hvalue).member name).append (cuts_memberChars hmembers)
      (numberEnds_members members)
    exact hall.comma_cons

end

/-! ## Sources -/

mutual

/-- A value as its text writes it. -/
def written : Json → Source
  | .null => .null
  | .bool b => .bool b
  | .number n => .number (some n)
  | .string s => .string (some s)
  | .array items => .array (writtenItems items)
  | .object members => .object (writtenMembers members)

/-- Items as their text writes them. -/
def writtenItems : List Json → List Source
  | [] => []
  | item :: items => written item :: writtenItems items

/-- Members as their text writes them. -/
def writtenMembers : List (String × Json) → List (Option String × Source)
  | [] => []
  | (name, value) :: members => (some name, written value) :: writtenMembers members

end

/-- No value begins with the end of an array. -/
theorem textLexemes_head (v : Json) :
    ∃ lexeme rest, v.textLexemes = lexeme :: rest ∧ lexeme ≠ .closeArray := by
  cases v with
  | null | bool | number | string => exact ⟨_, _, rfl, nofun⟩
  | array items => cases items <;> exact ⟨_, _, rfl, nofun⟩
  | object members => cases members <;> exact ⟨_, _, rfl, nofun⟩

/-- An array that is not empty begins with its first item. -/
theorem start?_openArray (v : Json) (rest : List Lexeme) (stack : List Open) :
    Source.start? (.openArray :: (v.textLexemes ++ rest)) stack =
      Source.start? (v.textLexemes ++ rest) (.array [] :: stack) := by
  obtain ⟨lexeme, more, hlexemes, hne⟩ := textLexemes_head v
  rw [hlexemes, List.cons_append, Source.start?]
  rintro _ heq
  cases heq
  exact hne rfl

mutual

/-- A value is read, and what follows it is left. -/
theorem start?_textLexemes : ∀ (v : Json) (rest : List Lexeme) (stack : List Open),
    Source.start? (v.textLexemes ++ rest) stack = Source.finish? v.written rest stack
  | .null, _, _ => by rfl
  | .bool _, _, _ => by rfl
  | .number _, _, _ => by rfl
  | .string _, _, _ => by rfl
  | .array [], _, _ => by rfl
  | .object [], _, _ => by rfl
  | .array (item :: items), rest, stack => by
    have hlexemes : (Json.array (item :: items)).textLexemes ++ rest =
        .openArray :: (item.textLexemes ++ (itemLexemes items ++ .closeArray :: rest)) := by
      simp [textLexemes]
    rw [hlexemes, start?_openArray, start?_textLexemes item, finish?_itemLexemes items]
    rfl
  | .object ((name, value) :: members), rest, stack => by
    have hlexemes : (Json.object ((name, value) :: members)).textLexemes ++ rest =
        .openObject :: .string (some name) :: .colon ::
          (value.textLexemes ++ (memberLexemes members ++ .closeObject :: rest)) := by
      simp [textLexemes]
    rw [hlexemes, Source.start?, start?_textLexemes value, finish?_memberLexemes members]
    rfl

/-- Behind an item the others are read, up to the end of their array. -/
theorem finish?_itemLexemes : ∀ (items : List Json) (done : List Source) (item : Source)
    (rest : List Lexeme) (stack : List Open),
    Source.finish? item (itemLexemes items ++ .closeArray :: rest) (.array done :: stack) =
      Source.finish? (.array ((item :: done).reverse ++ writtenItems items)) rest stack
  | [], done, item, rest, stack => by
    rw [writtenItems, List.append_nil, itemLexemes, List.nil_append, Source.finish?]
  | next :: items, done, item, rest, stack => by
    have hlexemes : itemLexemes (next :: items) ++ .closeArray :: rest =
        .comma :: (next.textLexemes ++ (itemLexemes items ++ .closeArray :: rest)) := by
      simp [itemLexemes]
    have hsources : (next.written :: item :: done).reverse ++ writtenItems items =
        (item :: done).reverse ++ writtenItems (next :: items) := by
      simp [writtenItems]
    rw [hlexemes, Source.finish?, start?_textLexemes next, finish?_itemLexemes items, hsources]

/-- Behind a member the others are read, up to the end of their object. -/
theorem finish?_memberLexemes : ∀ (members : List (String × Json))
    (done : List (Option String × Source)) (name : Option String) (value : Source)
    (rest : List Lexeme) (stack : List Open),
    Source.finish? value (memberLexemes members ++ .closeObject :: rest)
        (.object done name :: stack) =
      Source.finish? (.object (((name, value) :: done).reverse ++ writtenMembers members)) rest stack
  | [], done, name, value, rest, stack => by
    rw [writtenMembers, List.append_nil, memberLexemes, List.nil_append, Source.finish?]
  | (next, v) :: members, done, name, value, rest, stack => by
    have hlexemes : memberLexemes ((next, v) :: members) ++ .closeObject :: rest =
        .comma :: .string (some next) :: .colon ::
          (v.textLexemes ++ (memberLexemes members ++ .closeObject :: rest)) := by
      simp [memberLexemes]
    have hsources : ((some next, v.written) :: (name, value) :: done).reverse ++
          writtenMembers members =
        ((name, value) :: done).reverse ++ writtenMembers ((next, v) :: members) := by
      simp [writtenMembers]
    rw [hlexemes, Source.finish?, start?_textLexemes v, finish?_memberLexemes members, hsources]

end

/-- The text of a value is read as the value is written. -/
theorem source_read?_text {v : Json} (h : v.isFloatless = true) :
    Source.read? v.text = some v.written := by
  have hlexemes : lexemes? v.text.toList = some v.textLexemes := by
    have hcuts := cuts_chars h [] numberEnds_nil
    rw [List.append_nil, lexemes?_nil, Option.map_some, List.append_nil] at hcuts
    rw [text, String.toList_ofList, hcuts]
  have hstart := start?_textLexemes v [] []
  rw [List.append_nil, Source.finish?] at hstart
  rw [Source.read?, hlexemes, Option.bind_some, hstart]

/-! ## Values -/

mutual

/-- How deep arrays and objects nest in a value. -/
def nesting : Json → Nat
  | .array items => itemsNesting items + 1
  | .object members => membersNesting members + 1
  | .null | .bool _ | .number _ | .string _ => 0

/-- How deep arrays and objects nest in the items. -/
def itemsNesting : List Json → Nat
  | [] => 0
  | item :: items => max (nesting item) (itemsNesting items)

/-- How deep arrays and objects nest in the members. -/
def membersNesting : List (String × Json) → Nat
  | [] => 0
  | (_, value) :: members => max (nesting value) (membersNesting members)

end

mutual

/-- A value with the members of every object in order. -/
def arranged : Json → Json
  | .array items => .array (arrangedItems items)
  | .object members => .ofMembers (arrangedMembers members)
  | v => v

/-- Items with the members of every object in order. -/
def arrangedItems : List Json → List Json
  | [] => []
  | item :: items => arranged item :: arrangedItems items

/-- Members with the members of every object in their values in order. -/
def arrangedMembers : List (String × Json) → List (String × Json)
  | [] => []
  | (name, value) :: members => (name, arranged value) :: arrangedMembers members

end

mutual

/-- What is written of a value is the value, with its members in order. -/
theorem toJson?_written : ∀ {v : Json} {depth : Nat}, v.nesting ≤ depth →
    v.written.toJson? depth = some v.arranged
  | .null, _, _ => rfl
  | .bool _, _, _ => rfl
  | .number _, _, _ => rfl
  | .string _, _, _ => rfl
  | .array items, depth, h => by
    rw [nesting] at h
    rw [written, arranged, Source.toJson?, if_neg (by omega),
      itemsToJson?_written (by omega : itemsNesting items ≤ depth - 1)]
    rfl
  | .object members, depth, h => by
    rw [nesting] at h
    rw [written, arranged, Source.toJson?, if_neg (by omega),
      membersToJson?_written (by omega : membersNesting members ≤ depth - 1)]
    rfl

/-- What is written of items are the items, with their members in order. -/
theorem itemsToJson?_written : ∀ {items : List Json} {depth : Nat}, itemsNesting items ≤ depth →
    Source.itemsToJson? depth (writtenItems items) = some (arrangedItems items)
  | [], _, _ => rfl
  | item :: items, depth, h => by
    obtain ⟨hitem, hitems⟩ := Nat.max_le.1 h
    rw [writtenItems, Source.itemsToJson?, toJson?_written hitem, itemsToJson?_written hitems,
      arrangedItems]

/-- What is written of members are the members, with those of their values in order. -/
theorem membersToJson?_written : ∀ {members : List (String × Json)} {depth : Nat},
    membersNesting members ≤ depth →
      Source.membersToJson? depth (writtenMembers members) = some (arrangedMembers members)
  | [], _, _ => rfl
  | (name, value) :: members, depth, h => by
    obtain ⟨hvalue, hmembers⟩ := Nat.max_le.1 h
    simp only [writtenMembers, Source.membersToJson?, toJson?_written hvalue,
      membersToJson?_written hmembers, arrangedMembers]

end

/-! ## Arrays -/

theorem itemsAreFloatless_iff {items : List Json} :
    itemsAreFloatless items = true ↔ ∀ item ∈ items, item.isFloatless = true := by
  induction items with
  | nil => simp [itemsAreFloatless]
  | cons item items ih => simp [itemsAreFloatless, ih]

theorem itemsNesting_le_iff {items : List Json} {depth : Nat} :
    itemsNesting items ≤ depth ↔ ∀ item ∈ items, item.nesting ≤ depth := by
  induction items with
  | nil => simp [itemsNesting]
  | cons item items ih => rw [itemsNesting, Nat.max_le, ih, List.forall_mem_cons]

theorem arrangedItems_eq_map (items : List Json) : arrangedItems items = items.map arranged := by
  induction items with
  | nil => rfl
  | cons item items ih => rw [arrangedItems, ih, List.map_cons]

/-! ## The result -/

/-- The text of a value without floats is read as the value, with the members of every object in
order, unless it nests too deep. -/
theorem read?_text {v : Json} (hfloatless : v.isFloatless = true) (hdepth : v.nesting ≤ maxDepth) :
    read? v.text = some v.arranged := by
  rw [read?, source_read?_text hfloatless, Option.bind_some, toJson?_written hdepth]

end EntityQuery.Json
