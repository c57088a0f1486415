import EntityQuery.Proofs.Gql.Meaning

/-!
# Key literals in query text

A key literal is written by `FilterValue.gql` with its kind as a name, in back-quotes if it is no
plain identifier, and by `KeyLiteral.text` with its kind as it is.

* Quotes.  `Quoted.spells_of_read`: a quoted text is longer than what it holds, and has the same
  characters but for quotes and backslashes.
* Names in front.  `isBareWord_of_tokensFrom`: characters in front of a comma are cut into the name
  that they are only if they are a word.
* Filters.  `toOption_readStatement_key` is how a filter on a key is read from the path on;
  `readStatement_of_name` and `name_of_readStatement` say what is read of a path.
* Literals.  `parse_keyCall` and `isBareWord_of_parse` put these together for the characters of a
  literal, however the kind is written.
* The result.  `KeyLiteral.text_or_gql`.
-/

namespace EntityQuery

namespace Text.Quoted

/-- The characters could be those of a quoted text up to its closing quote: they are more than the
text has, and none of them but quotes and backslashes are missing from it. -/
def Spells (quote : Char) (used text : List Char) : Prop :=
  text.length < used.length ∧ ∀ c, c ≠ quote → c ≠ '\\' → used.count c = text.count c

theorem spells_nil (quote : Char) : Spells quote [quote] [] := by
  refine ⟨by simp, fun c hquote _ => ?_⟩
  rw [List.count_singleton, if_neg (by simp [Ne.symm hquote]), List.count_nil]

/-- One more character, with or without a quote or a backslash in front of it. -/
theorem Spells.cons {quote c : Char} {front used text : List Char} (h : Spells quote used text)
    (hfront : ∀ d ∈ front, d = quote ∨ d = '\\') :
    Spells quote (front ++ c :: used) (c :: text) := by
  obtain ⟨hlength, hcount⟩ := h
  refine ⟨by simp only [List.length_append, List.length_cons]; omega, fun d hquote hslash => ?_⟩
  have hnone : front.count d = 0 := by
    rw [List.count_eq_zero]
    intro hmem
    exact (hfront d hmem).elim hquote hslash
  rw [List.count_append, hnone, Nat.zero_add, List.count_cons, List.count_cons,
    hcount d hquote hslash]

/-- What is read of a quoted text is spelled by the characters that are taken. -/
theorem spells_of_read {quote : Char} {cs text rest : List Char}
    (h : read quote cs = some (text, rest)) :
    ∃ used, cs = used ++ rest ∧ Spells quote used text := by
  fun_induction read quote cs generalizing text rest with
  | case1 => simp at h
  | case2 c hc =>
    cases h
    exact ⟨[c], rfl, hc.2 ▸ spells_nil c⟩
  | case3 => simp at h
  | case4 d ds ih =>
    obtain ⟨⟨t, r⟩, hread, heq⟩ := Option.map_eq_some_iff.1 h
    cases heq
    obtain ⟨used, hds, hspells⟩ := ih hread
    exact ⟨['\\'] ++ d :: used, by rw [hds]; rfl, hspells.cons (by simp)⟩
  | case5 ds hslash ih =>
    obtain ⟨⟨t, r⟩, hread, heq⟩ := Option.map_eq_some_iff.1 h
    cases heq
    obtain ⟨used, hds, hspells⟩ := ih hread
    exact ⟨[quote] ++ quote :: used, by rw [hds]; rfl, hspells.cons (by simp)⟩
  | case6 d ds hslash hd =>
    cases h
    exact ⟨[quote], rfl, spells_nil quote⟩
  | case7 c d ds hslash hquote ih =>
    obtain ⟨⟨t, r⟩, hread, heq⟩ := Option.map_eq_some_iff.1 h
    cases heq
    obtain ⟨used, hds, hspells⟩ := ih hread
    exact ⟨[] ++ c :: used, by rw [hds]; rfl, hspells.cons (by simp)⟩

theorem length_le_encode (quote : Char) (cs : List Char) :
    cs.length ≤ (encode quote cs).length := by
  induction cs with
  | nil => exact Nat.zero_le _
  | cons c cs ih =>
    rw [encode]
    split
    · simp only [List.length_cons]; omega
    · split <;> simp only [List.length_cons] <;> omega

end Text.Quoted

namespace Gql

open EntityQuery.Text

/-! ## Names in front -/

/-- The first token of a text stands behind white space. -/
theorem exists_scan_of_tokensFrom {total : Nat} {cs : List Char} {token : Token}
    {tokens : List Token} (h : tokensFrom total cs = .ok (token :: tokens)) :
    ∃ blanks c rest left, cs = blanks ++ c :: rest ∧ (∀ b ∈ blanks, isBlank b = true) ∧
      isBlank c = false ∧ scan c rest = .ok (token, left) := by
  induction cs with
  | nil => simp [tokensFrom] at h
  | cons c cs ih =>
    rw [tokensFrom] at h
    split at h
    · next hblank =>
      obtain ⟨blanks, d, rest, left, hcs, hblanks, hd, hscan⟩ := ih h
      refine ⟨c :: blanks, d, rest, left, by rw [hcs, List.cons_append], ?_, hd, hscan⟩
      exact List.forall_mem_cons.2 ⟨hblank, hblanks⟩
    · next hblank =>
      split at h
      · cases h
      · next found left hscan =>
        split at h
        · cases h
        · cases h
          exact ⟨[], c, cs, left, rfl, by simp, Bool.eq_false_iff.2 hblank, hscan⟩

/-- A word that is scanned is the run of its characters. -/
theorem eq_of_scan_word {c : Char} {cs left : List Char} {w : String}
    (h : scan c cs = .ok (.word w, left)) :
    startsWord c = true ∧ w.toList = c :: cs.takeWhile continuesWord := by
  unfold scan at h
  repeat' split at h
  all_goals try cases h
  next hstart => exact ⟨hstart, String.toList_ofList⟩

/-- A quoted name that is scanned stands behind a back-quote. -/
theorem eq_of_scan_quoted {c : Char} {cs left : List Char} {w : String}
    (h : scan c cs = .ok (.quoted w, left)) :
    c = backQuote ∧ Quoted.read backQuote cs = some (w.toList, left) := by
  unfold scan at h
  repeat' split at h
  all_goals try cases h
  next hc _ _ hread =>
    rw [hc] at hread
    exact ⟨hc, by rw [String.toList_ofList]; exact hread⟩

/-- Whether the characters are a word: a letter or an underscore, and then letters, digits and
underscores. -/
def isBareWord : List Char → Bool
  | [] => false
  | c :: cs => startsWord c && cs.all continuesWord

theorem lexes_bareWord {name : String} (h : isBareWord name.toList = true) :
    Lexes name.toList [.word name] := by
  cases hname : name.toList with
  | nil =>
    rw [hname] at h
    cases h
  | cons c cs =>
    rw [hname, isBareWord, Bool.and_eq_true, List.all_eq_true] at h
    have hword := lexes_word h.1 h.2
    have hofList : String.ofList (c :: cs) = name := by rw [← hname, String.ofList_toList]
    rwa [hofList] at hword

/-- A name that stands in front of a comma as it is, and is read as that name, is a word. -/
theorem isBareWord_of_tokensFrom {total : Nat} {name rest : List Char} {token : Token}
    {tokens : List Token} (h : tokensFrom total (name ++ ',' :: rest) = .ok (token :: tokens))
    (htoken : token = .word (String.ofList name) ∨ token = .quoted (String.ofList name)) :
    isBareWord name = true := by
  obtain ⟨blanks, c, more, left, hcs, hblanks, -, hscan⟩ := exists_scan_of_tokensFrom h
  rcases htoken with rfl | rfl
  · obtain ⟨hstart, hname⟩ := eq_of_scan_word hscan
    rw [String.toList_ofList] at hname
    rw [hname, isBareWord, hstart, Bool.true_and]
    exact List.all_takeWhile
  · -- A quoted name is shorter than its characters, so these go on behind the comma; but they have
    -- no more commas than the name.
    exfalso
    obtain ⟨rfl, hread⟩ := eq_of_scan_quoted hscan
    rw [String.toList_ofList] at hread
    obtain ⟨used, rfl, hlength, hcount⟩ := Quoted.spells_of_read hread
    have hcommas : blanks.count ',' = 0 := by
      rw [List.count_eq_zero]
      intro hmem
      exact absurd (hblanks ',' hmem) (by decide)
    have hname : name ++ [','] <+: name ++ ',' :: rest := ⟨rest, by simp⟩
    have hquoted : blanks ++ backQuote :: used <+: name ++ ',' :: rest := ⟨left, by rw [hcs]; simp⟩
    have hprefix := List.prefix_of_prefix_length_le hname hquoted
      (by simp only [List.length_append, List.length_cons, List.length_nil]; omega)
    have hle := hprefix.sublist.count_le ','
    have hused : used.count ',' = name.count ',' := hcount ',' (by decide) (by decide)
    rw [List.count_append, List.count_singleton_self, List.count_append, hcommas,
      List.count_cons_of_ne (by decide), hused] at hle
    omega

/-! ## Filters on a key -/

/-- A filter with a value for the key. -/
def keyFilter (value : String) : String := "SELECT * FROM k WHERE __key__ = " ++ value

/-- The statement of a filter with a path for the key. -/
def keyStatement (path : List (String × KeyId)) : Statement :=
  ⟨[], "k", [[⟨keyField, .equal, .key path⟩]], [], none, none⟩

/-- The tokens of a filter up to the path of the key. -/
def keyFilterTokens : List Token :=
  [.word "SELECT", .star, .word "FROM", .word "k", .word "WHERE", .word "__key__",
    .operator .equal, .word "KEY", .openParen]

theorem lexes_keyFilter :
    Lexes "SELECT * FROM k WHERE __key__ = KEY".toList [.word "SELECT", .star, .word "FROM",
      .word "k", .word "WHERE", .word "__key__", .operator .equal, .word "KEY"] := by
  have hspace : isBreak ' ' = true := rfl
  have hop := (lexes_operator .equal).append ((lexes_keyword .key).break_cons hspace)
    (breaks_cons.2 hspace)
  have hfield : Lexes "__key__".toList [.word "__key__"] :=
    lexes_identifier (c := '_') (by decide) (by decide)
  have hwhere := (hfield.append (hop.break_cons hspace) (breaks_cons.2 hspace)).keyword_cons .where
  have hkind : Lexes "k".toList [.word "k"] := lexes_identifier (c := 'k') (by decide) (by decide)
  have hfrom := (hkind.append (hwhere.break_cons hspace) (breaks_cons.2 hspace)).keyword_cons .from
  have hstar : Lexes ['*'] [.star] := .of_scan (by decide) fun _ _ => rfl
  have hselect := (hstar.append (hfrom.break_cons hspace) (breaks_cons.2 hspace)).keyword_cons
    .select
  have hchars : "SELECT * FROM k WHERE __key__ = KEY".toList =
      Keyword.select.text.toList ++ ' ' :: (['*'] ++ ' ' :: (Keyword.from.text.toList ++
        ' ' :: ("k".toList ++ ' ' :: (Keyword.where.text.toList ++ ' ' :: ("__key__".toList ++
          ' ' :: (Operator.equal.chars ++ ' ' :: Keyword.key.text.toList)))))) := by
    decide
  rw [hchars]
  exact hselect

theorem tokenize_keyFilter (s : String) :
    ∃ total, tokenize (keyFilter ("KEY(" ++ s)) =
      (tokensFrom total s.toList).map (keyFilterTokens ++ ·) := by
  have hjoin : "SELECT * FROM k WHERE __key__ = ".toList ++ "KEY(".toList =
      "SELECT * FROM k WHERE __key__ = KEY".toList ++ ['('] := by decide
  have hsplit : (keyFilter ("KEY(" ++ s)).toList =
      "SELECT * FROM k WHERE __key__ = KEY".toList ++ '(' :: s.toList :=
    calc (keyFilter ("KEY(" ++ s)).toList
      _ = "SELECT * FROM k WHERE __key__ = ".toList ++ ("KEY(" ++ s).toList := String.toList_append
      _ = "SELECT * FROM k WHERE __key__ = ".toList ++ ("KEY(".toList ++ s.toList) :=
        congrArg _ String.toList_append
      _ = "SELECT * FROM k WHERE __key__ = ".toList ++ "KEY(".toList ++ s.toList :=
        (List.append_assoc ..).symm
      _ = "SELECT * FROM k WHERE __key__ = KEY".toList ++ ['('] ++ s.toList :=
        congrArg (· ++ s.toList) hjoin
      _ = "SELECT * FROM k WHERE __key__ = KEY".toList ++ '(' :: s.toList := List.append_assoc ..
  refine ⟨(keyFilter ("KEY(" ++ s)).toList.length, ?_⟩
  rw [tokenize, hsplit, lexes_keyFilter _ _ (breaks_cons.2 rfl), tokensFrom_break rfl]
  cases tokensFrom _ s.toList <;> rfl

/-- How a filter on a key is read from the path on. -/
theorem toOption_readStatement_key (tokens : List Token) :
    (readStatement (keyFilterTokens ++ tokens)).toOption =
      (outcome (readElement tokens)).bind fun (element, rest) =>
        (outcome (repeated nextElement rest)).bind fun (others, rest) =>
          (remaining (expect .closeParen rest)).bind fun rest =>
            (outcome (repeated nextCondition rest)).bind fun (conditions, rest) =>
              (outcome (readOrders (keyFilterTokens ++ tokens).length rest)).bind
                fun (orders, rest) =>
                  (outcome (readLimit .limit rest)).bind fun (limit, rest) =>
                    (outcome (readLimit .offset rest)).bind fun (offset, rest) =>
                      if rest.isEmpty then
                        some ⟨[], "k", groupConditions ⟨keyField, .equal, .key (element :: others)⟩
                          conditions, orders, limit, offset⟩
                      else none := by
  have hselect : remaining (expectKeyword (keyFilterTokens ++ tokens).length .select
      (keyFilterTokens ++ tokens)) = some (keyFilterTokens.tail ++ tokens) :=
    remaining_expectKeyword _ .select _
  have hstar : outcome (readProjection (keyFilterTokens.tail ++ tokens)) =
      some ([], .word "FROM" :: .word "k" :: .word "WHERE" :: .word keyField ::
        .operator .equal :: .word "KEY" :: .openParen :: tokens) := rfl
  have hfrom : ∀ total rest, remaining (expectKeyword total .from (.word "FROM" :: rest)) =
      some rest := fun total => remaining_expectKeyword total .from
  have hname : ∀ name rest, outcome (readName (.word name :: rest)) = some (name, rest) :=
    fun _ _ => rfl
  have hop : ∀ rest, outcome (readOperator (.operator .equal :: rest)) = some (.equal, rest) :=
    fun _ => rfl
  have hoperand : outcome (readOperand (.word "KEY" :: .openParen :: tokens)) = _ :=
    outcome_readOperand_key (eat_text .key (.openParen :: tokens))
  have hfilter : outcome (readFilter (.word "WHERE" :: .word keyField :: .operator .equal ::
      .word "KEY" :: .openParen :: tokens)) = _ :=
    outcome_readFilter_some (eat_text .where _)
  rw [toOption_readStatement]
  simp only [hselect, hstar, hfrom, hname, hfilter, outcome_readCondition, hop, hoperand,
    outcome_readPath, remaining_expect, Option.bind_some, Option.bind_assoc]

/-- The first group of conditions begins with the first condition. -/
theorem groupConditions_head (first : Condition) (rest : List (Connector × Condition)) :
    ∃ group groups, groupConditions first rest = (first :: group) :: groups := by
  induction rest generalizing first with
  | nil => exact ⟨[], [], rfl⟩
  | cons joined rest ih =>
    obtain ⟨connector, condition⟩ := joined
    cases connector with
    | or => exact ⟨[], _, rfl⟩
    | and =>
      obtain ⟨group, groups, hrest⟩ := ih condition
      exact ⟨condition :: group, groups, by rw [groupConditions, hrest]⟩

/-- A name, a comma and an id are read as a path of one element. -/
theorem readStatement_of_name {name : Token} {kind : String}
    (hname : ∀ rest, outcome (readName (name :: rest)) = some (kind, rest)) (id : KeyId) :
    readStatement (keyFilterTokens ++ [name, .comma, keyIdToken id, .closeParen]) =
      .ok (keyStatement [(kind, id)]) := by
  have hend : outcome (repeated nextElement [.closeParen]) = some ([], [.closeParen]) := by
    rw [outcome_repeated]
    rfl
  have hfilter : outcome (repeated nextCondition []) = some ([], []) := by
    rw [outcome_repeated]
    rfl
  have hread := toOption_readStatement_key [name, .comma, keyIdToken id, .closeParen]
  simp only [outcome_readElement, hname, outcome_readKeyId, remaining_expect, Option.bind_some,
    hend, hfilter] at hread
  cases hstatement :
      readStatement (keyFilterTokens ++ [name, .comma, keyIdToken id, .closeParen]) with
  | error e =>
    rw [hstatement] at hread
    cases hread
  | ok s =>
    rw [hstatement] at hread
    exact congrArg Except.ok (Option.some.inj hread)

/-- A name that is read is a word or stands in back-quotes. -/
theorem readName_front {tokens rest : List Token} {name : String}
    (h : outcome (readName tokens) = some (name, rest)) :
    ∃ token, tokens = token :: rest ∧ (token = .word name ∨ token = .quoted name) := by
  unfold readName at h
  split at h
  · cases h
  · cases h
    exact ⟨_, rfl, .inl rfl⟩
  · cases h
    exact ⟨_, rfl, .inr rfl⟩
  · cases h

/-- The kind of the first element of a path is the name that comes first. -/
theorem name_of_readStatement {tokens : List Token} {kind : String} {id : KeyId}
    {path : List (String × KeyId)}
    (h : readStatement (keyFilterTokens ++ tokens) = .ok (keyStatement ((kind, id) :: path))) :
    ∃ token rest, tokens = token :: rest ∧ (token = .word kind ∨ token = .quoted kind) := by
  have hread := (toOption_readStatement_key tokens).symm
  rw [h] at hread
  obtain ⟨⟨element, _⟩, helement, hread⟩ := Option.bind_eq_some_iff.1 hread
  obtain ⟨⟨others, _⟩, -, hread⟩ := Option.bind_eq_some_iff.1 hread
  obtain ⟨_, -, hread⟩ := Option.bind_eq_some_iff.1 hread
  obtain ⟨⟨conditions, _⟩, -, hread⟩ := Option.bind_eq_some_iff.1 hread
  obtain ⟨⟨orders, _⟩, -, hread⟩ := Option.bind_eq_some_iff.1 hread
  obtain ⟨⟨limit, _⟩, -, hread⟩ := Option.bind_eq_some_iff.1 hread
  obtain ⟨⟨offset, left⟩, -, hread⟩ := Option.bind_eq_some_iff.1 hread
  have hkind : element.1 = kind := by
    obtain ⟨group, groups, hgroups⟩ :=
      groupConditions_head ⟨keyField, .equal, .key (element :: others)⟩ conditions
    dsimp only at hread
    rw [hgroups] at hread
    split at hread
    · have hstatement := congrArg Statement.groups (Option.some.inj hread)
      simp only [keyStatement, List.cons.injEq, Condition.mk.injEq, Operand.key.injEq, true_and]
        at hstatement
      rw [hstatement.1.1.1]
    · cases hread
  rw [outcome_readElement] at helement
  obtain ⟨⟨found, rest⟩, hname, helement⟩ := Option.bind_eq_some_iff.1 helement
  obtain ⟨_, -, helement⟩ := Option.bind_eq_some_iff.1 helement
  obtain ⟨_, -, helement⟩ := Option.bind_eq_some_iff.1 helement
  cases helement
  obtain ⟨token, htokens, htoken⟩ := readName_front hname
  exact ⟨token, rest, htokens, hkind ▸ htoken⟩

/-! ## The texts of a literal -/

/-- A key literal with these characters for its kind. -/
def keyCall (kind : List Char) (id : KeyId) : String :=
  "KEY(" ++ String.ofList (kind ++ ',' :: ' ' :: (id.chars ++ [')']))

theorem lexes_pair {cs : List Char} {name : Token} (h : Lexes cs [name]) (id : KeyId) :
    Lexes (cs ++ ',' :: ' ' :: (id.chars ++ [')']))
      [name, .comma, keyIdToken id, .closeParen] := by
  have hclose := Lexes.nil.break_cons (show isBreak ')' = true from rfl)
  have hid := ((lexes_keyId id).append hclose (breaks_cons.2 rfl)).break_cons
    (show isBreak ' ' = true from rfl)
  have hcomma := hid.break_cons (show isBreak ',' = true from rfl)
  exact h.append hcomma (breaks_cons.2 rfl)

/-- A literal of which the kind is written as one name is read as its kind and its id. -/
theorem parse_keyCall {cs : List Char} {name : Token} {kind : String} (h : Lexes cs [name])
    (hname : ∀ rest, outcome (readName (name :: rest)) = some (kind, rest)) (id : KeyId) :
    parse (keyFilter (keyCall cs id)) = .ok (keyStatement [(kind, id)]) := by
  obtain ⟨total, htokens⟩ := tokenize_keyFilter
    (String.ofList (cs ++ ',' :: ' ' :: (id.chars ++ [')'])))
  have hpair := lexes_pair h id total [] breaks_nil
  rw [List.append_nil, tokensFrom] at hpair
  rw [String.toList_ofList, hpair] at htokens
  rw [parse, keyCall, htokens]
  exact readStatement_of_name hname id

/-- A literal of which the kind is written as it is and read as its kind and its id has a word for
its kind. -/
theorem isBareWord_of_parse {kind : String} {id : KeyId}
    (h : parse (keyFilter (keyCall kind.toList id)) = .ok (keyStatement [(kind, id)])) :
    isBareWord kind.toList = true := by
  obtain ⟨total, htokens⟩ := tokenize_keyFilter
    (String.ofList (kind.toList ++ ',' :: ' ' :: (id.chars ++ [')'])))
  rw [parse, keyCall, htokens, String.toList_ofList] at h
  cases hcut : tokensFrom total (kind.toList ++ ',' :: ' ' :: (id.chars ++ [')'])) with
  | error e =>
    rw [hcut] at h
    cases h
  | ok tokens =>
    rw [hcut] at h
    obtain ⟨token, rest, rfl, htoken⟩ := name_of_readStatement h
    refine isBareWord_of_tokensFrom hcut ?_
    rwa [String.ofList_toList]

theorem keyCall_inj {kind other : List Char} {id : KeyId} :
    keyCall kind id = keyCall other id ↔ kind = other := by
  rw [keyCall, keyCall, String.append_right_inj, String.ofList_inj, List.append_left_inj]

/-- A name is written as it is only if it is a plain identifier. -/
theorem nameChars_eq_iff {name : String} :
    nameChars name = name.toList ↔ isPlainName name.toList = true := by
  rw [nameChars]
  split
  · next hplain => simp [hplain]
  · next hplain =>
    refine iff_of_false (fun heq => ?_) hplain
    have hlength := congrArg List.length heq
    have hle := Quoted.length_le_encode backQuote name.toList
    simp only [List.length_append, List.length_cons, List.length_nil] at hlength
    omega

end Gql

namespace KeyLiteral

open Gql

theorem gql_eq_keyCall (literal : KeyLiteral) :
    (FilterValue.key literal).gql = keyCall (nameChars literal.kind) literal.id := by
  have hcall : "KEY(".toList = ['K', 'E', 'Y', '('] := by decide
  rw [← String.toList_inj, FilterValue.gql, keyCall]
  simp only [String.toList_append, String.toList_ofList, hcall, FilterValue.chars, keyChars,
    List.append_assoc, List.cons_append, List.nil_append]

theorem text_eq_keyCall (literal : KeyLiteral) :
    literal.text = keyCall literal.kind.toList literal.id := by
  have hcomma : ", ".toList = [',', ' '] := by decide
  have hclose : ")".toList = [')'] := by decide
  rw [← String.toList_inj, text, keyCall]
  simp only [String.toList_append, String.toList_ofList, KeyId.text, hcomma, hclose,
    List.append_assoc, List.cons_append, List.nil_append]

/-! ## The result -/

/-- In a filter the text of a value is read as the key of the literal, and as nothing else. -/
def IsReadFrom (literal : KeyLiteral) (value : String) : Prop :=
  parse (keyFilter value) = .ok (keyStatement [(literal.kind, literal.id)])

/-- The text of a literal is its query text if and only if the kind is a plain identifier.  The
query text is always read as the literal.  The text is read so if and only if the kind is a word. -/
theorem text_or_gql (literal : KeyLiteral) :
    (literal.text = (FilterValue.key literal).gql ↔ isPlainName literal.kind.toList = true) ∧
      literal.IsReadFrom (FilterValue.key literal).gql ∧
      (literal.IsReadFrom literal.text ↔ isBareWord literal.kind.toList = true) := by
  refine ⟨?_, ?_, ?_, ?_⟩
  · rw [text_eq_keyCall, gql_eq_keyCall, keyCall_inj, eq_comm, nameChars_eq_iff]
  · rw [IsReadFrom, gql_eq_keyCall]
    exact parse_keyCall (lexes_name literal.kind) (outcome_readName literal.kind) literal.id
  · rw [IsReadFrom, text_eq_keyCall]
    exact isBareWord_of_parse
  · intro hword
    rw [IsReadFrom, text_eq_keyCall]
    exact parse_keyCall (lexes_bareWord hword) (fun _ => rfl) literal.id

/-- A literal of which the kind is no plain identifier, and no word. -/
def spacedLiteral : KeyLiteral := ⟨"unit price", .number 7⟩

/-- The text of the literal is not its query text, and is not read as the literal. -/
theorem text_or_gql_spaced :
    spacedLiteral.text ≠ (FilterValue.key spacedLiteral).gql ∧
      spacedLiteral.IsReadFrom (FilterValue.key spacedLiteral).gql ∧
      ¬spacedLiteral.IsReadFrom spacedLiteral.text := by
  obtain ⟨hsame, hgql, htext⟩ := text_or_gql spacedLiteral
  have hplain : isPlainName spacedLiteral.kind.toList = false := by decide
  have hword : isBareWord spacedLiteral.kind.toList = false := by decide
  rw [hplain] at hsame
  rw [hword] at htext
  exact ⟨fun heq => Bool.false_ne_true (hsame.1 heq), hgql,
    fun hread => Bool.false_ne_true (htext.1 hread)⟩

end KeyLiteral

end EntityQuery
