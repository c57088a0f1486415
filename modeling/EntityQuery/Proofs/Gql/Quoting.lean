import EntityQuery.Gql.Parser
import EntityQuery.Proofs.Gql.KeyLiterals

/-!
# What quotes enclose

A text in quotes is read as that text, and reading stops at the closing quote that was written,
whatever the text holds and whatever follows.

* Doubling.  Writing doubles all backslashes first and then all quotes, which
  `Quoted.encode_eq_doubled` finds in one pass.
* Quotes.  `Quoted.Encloses` is how a text stands in quotes and what is read of it;
  `encloses_of_encode` gives it for everything that `Quoted.encode` writes.  One more quote behind
  the closing one is all that changes where reading stops.
* Bare names.  `StandsBare` is that a name needs no quotes: it is one word and no keyword.
* The result.  `quotes_enclose`.
-/

namespace EntityQuery

namespace Text.Quoted

/-! ## Doubling -/

/-- The characters with each of the given ones written twice. -/
def doubled (c : Char) (cs : List Char) : List Char :=
  cs.flatMap fun d => if d = c then [d, d] else [d]

theorem doubled_cons (c d : Char) (cs : List Char) :
    doubled c (d :: cs) = (if d = c then [d, d] else [d]) ++ doubled c cs := List.flatMap_cons

/-- Backslashes are doubled first and quotes after them. -/
theorem encode_eq_doubled {quote : Char} (hquote : quote ≠ '\\') (cs : List Char) :
    encode quote cs = doubled quote (doubled '\\' cs) := by
  induction cs with
  | nil => rfl
  | cons c cs ih =>
    rw [encode, doubled_cons '\\', ih]
    split
    · next h =>
      -- No backslash is a quote, so the second pass leaves the pair as it is.
      rw [h, List.cons_append, List.cons_append, doubled_cons quote, doubled_cons quote,
        if_neg hquote.symm]
      rfl
    · rw [List.singleton_append, doubled_cons quote]
      split
      · next h => rw [h, List.cons_append, List.cons_append, List.nil_append]
      · rw [List.singleton_append]

/-! ## Quotes -/

/-- The written text is `s` in quotes.  Behind the opening quote `s` is read, and what follows the
written text is left, unless that begins with one more quote. -/
structure Encloses (quote : Char) (written s : String) : Prop where
  toList_eq : written.toList = quote :: doubled quote (doubled '\\' s.toList) ++ [quote]
  read_iff : ∀ rest : List Char,
    read quote (written.toList.tail ++ rest) = some (s.toList, rest) ↔ rest.head? ≠ some quote

/-- A quote behind the closing one is read as a part of the text. -/
theorem read_encode_quote_ne {quote : Char} (hquote : quote ≠ '\\') (s rest : List Char) :
    read quote (encode quote s ++ quote :: quote :: rest) ≠ some (s, quote :: rest) := by
  rw [read_encode_append hquote, read, if_neg hquote, if_pos rfl, if_pos rfl]
  intro h
  obtain ⟨⟨text, left⟩, hfound, hleft⟩ := Option.map_eq_some_iff.1 h
  obtain ⟨⟨_, _⟩, hread, heq⟩ := Option.map_eq_some_iff.1 hfound
  cases heq
  have hlength := read_length hread
  rw [show left = quote :: rest from congrArg Prod.snd hleft, List.length_cons] at hlength
  omega

theorem encloses_of_encode {quote : Char} (hquote : quote ≠ '\\') {written s : String}
    (h : written.toList = quote :: encode quote s.toList ++ [quote]) :
    Encloses quote written s where
  toList_eq := by rw [h, encode_eq_doubled hquote]
  read_iff rest := by
    rw [h, List.cons_append, List.tail_cons, List.append_assoc, List.singleton_append]
    constructor
    · intro hread hhead
      obtain ⟨more, rfl⟩ := List.head?_eq_some_iff.1 hhead
      exact read_encode_quote_ne hquote s.toList more hread
    · intro hhead
      exact read_encode hquote s.toList rest fun more hrest => hhead (hrest ▸ rfl)

end Text.Quoted

namespace Gql

open EntityQuery.Text

/-! ## Bare names -/

/-- A name that needs no quotes.  It is cut into one word, itself, also in front of whatever does
not go on with a word; and none of the tests for keywords takes that word. -/
structure StandsBare (name : String) : Prop where
  tokenize_eq : tokenize name = .ok [.word name]
  tokensFrom_eq : ∀ (total : Nat) (rest : List Char),
    (∀ c ∈ rest.head?, continuesWord c = false) →
      tokensFrom total (name.toList ++ rest) = (tokensFrom total rest).map (.word name :: ·)
  isWord_eq : ∀ keyword : Keyword, keyword.isWord name = false
  eat_eq : ∀ (keyword : Keyword) (rest : List Token), eat keyword (.word name :: rest) = none
  wordValue?_eq : wordValue? name = none

/-- A plain identifier is one word, and ends where no letter, digit or underscore follows. -/
theorem tokensFrom_plainName {name : String} (h : isPlainName name.toList = true) (total : Nat)
    {rest : List Char} (hrest : ∀ c ∈ rest.head?, continuesWord c = false) :
    tokensFrom total (name.toList ++ rest) = (tokensFrom total rest).map (.word name :: ·) := by
  cases hname : name.toList with
  | nil => rw [hname] at h; cases h
  | cons c cs =>
    rw [hname, isPlainName, Bool.and_eq_true, Bool.and_eq_true] at h
    obtain ⟨⟨hfirst, hall⟩, -⟩ := h
    have hstart := startsWord_of_isIdentifierStart hfirst
    have hword : ∀ d ∈ cs, continuesWord d = true := fun d hd =>
      continuesWord_of_isIdentifier (List.all_eq_true.1 hall d hd)
    have hscan := scan_startsWord hstart (cs ++ rest)
    obtain ⟨htake, hdrop⟩ := takeWhile_run hword hrest
    rw [htake, hdrop, ← hname, String.ofList_toList] at hscan
    exact tokensFrom_of_scan (isBlank_of_startsWord hstart) hscan

theorem isWord_plainName {name : String} (h : isPlainName name.toList = true)
    (keyword : Keyword) : keyword.isWord name = false := by
  refine Bool.eq_false_iff.2 fun hword => ?_
  have hreserved := isReserved_of_isWord hword
  cases hname : name.toList with
  | nil => rw [hname] at h; cases h
  | cons c cs =>
    rw [hname] at h hreserved
    rw [isPlainName, hreserved, Bool.not_true, Bool.and_false] at h
    cases h

theorem standsBare_of_isPlainName {name : String} (h : isPlainName name.toList = true) :
    StandsBare name where
  tokenize_eq := by
    have hend : ∀ c ∈ ([] : List Char).head?, continuesWord c = false := by simp
    have htokens := tokensFrom_plainName h name.toList.length hend
    rw [List.append_nil, tokensFrom] at htokens
    exact htokens
  tokensFrom_eq total _ hrest := tokensFrom_plainName h total hrest
  isWord_eq := isWord_plainName h
  eat_eq keyword rest := by rw [eat, isWord_plainName h]; rfl
  wordValue?_eq := by simp only [wordValue?, isWord_plainName h, Bool.false_eq_true, if_false]

/-! ## The result -/

theorem quoteName_eq_iff {name : String} :
    quoteName name = name ↔ isPlainName name.toList = true := by
  rw [← nameChars_eq_iff, quoteName, ← String.toList_inj, String.toList_ofList]

/-- Texts and names cannot end their quotes early or late.  A text in single quotes, which is also
how a key id is written that is a name, encloses that text; a name in back-quotes encloses that
name; and a name without back-quotes needs none. -/
theorem quotes_enclose (s : String) :
    Quoted.Encloses '\'' (quoteText s) s ∧ (KeyId.name s).text = quoteText s ∧
      (quoteName s ≠ s → Quoted.Encloses backQuote (quoteName s) s) ∧
      (quoteName s = s → StandsBare s) := by
  refine ⟨Quoted.encloses_of_encode (by decide) String.toList_ofList, rfl, fun hquoted => ?_,
    fun hbare => standsBare_of_isPlainName (quoteName_eq_iff.1 hbare)⟩
  have hplain : ¬isPlainName s.toList = true := fun h => hquoted (quoteName_eq_iff.2 h)
  refine Quoted.encloses_of_encode (by decide) ?_
  rw [quoteName, String.toList_ofList, nameChars, if_neg hplain]

/-- A name of quotes and backslashes, which ends in a backslash, and a plain one. -/
theorem quotes_enclose_backslash :
    quoteName "\x60'\\\\\x60\\" ≠ "\x60'\\\\\x60\\" ∧
      Quoted.Encloses backQuote (quoteName "\x60'\\\\\x60\\") "\x60'\\\\\x60\\" ∧
      quoteName "Widget" = "Widget" ∧ StandsBare "Widget" := by
  have hquoted : quoteName "\x60'\\\\\x60\\" ≠ "\x60'\\\\\x60\\" :=
    mt quoteName_eq_iff.1 (by decide)
  have hbare : quoteName "Widget" = "Widget" := quoteName_eq_iff.2 (by decide)
  exact ⟨hquoted, (quotes_enclose _).2.2.1 hquoted, hbare, (quotes_enclose _).2.2.2 hbare⟩

end Gql

end EntityQuery
