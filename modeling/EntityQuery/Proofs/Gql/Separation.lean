import EntityQuery.Proofs.Gql.Lexemes
import Mathlib.Tactic.SplitIfs

/-!
# Tokens across white space

A text that is cut into tokens is cut into the same tokens in front of white space, and what stands
behind the white space is cut as if it stood alone.

* White space.  `Text.BlankNext` is that a text ends or goes on with white space.
* Readers.  `Quoted.read_append`, `numberRun_append`, `takeWhile_append` and `scanOperator_append`:
  a reader that has stopped in a text stops there too if white space follows the text.
* Tokens.  `scan_append` puts the readers together for one token, and `tokensFrom_append` goes
  through all tokens of a text.
* Positions.  `tokensFrom_behind`: the tokens of a text that stands behind another one, or the same
  error with its index moved.
* The result.  `tokenize_across_gap`.
-/

namespace EntityQuery

namespace Text

/-! ## White space -/

/-- Nothing follows, or white space does. -/
def BlankNext (rest : List Char) : Prop := ∀ c ∈ rest.head?, isBlank c = true

theorem BlankNext.head?_ne {rest : List Char} (h : BlankNext rest) {quote : Char}
    (hquote : isBlank quote = false) : rest.head? ≠ some quote := by
  intro hhead
  have hblank := h quote hhead
  rw [hquote] at hblank
  cases hblank

/-! ## Readers -/

/-- A quoted text ends in front of anything but one more quote. -/
theorem Quoted.read_append {quote : Char} {cs text rest more : List Char}
    (h : Quoted.read quote cs = some (text, rest)) (hmore : more.head? ≠ some quote) :
    Quoted.read quote (cs ++ more) = some (text, rest ++ more) := by
  fun_induction Quoted.read quote cs generalizing text rest with
  | case1 => cases h
  | case2 c hc =>
    cases h
    obtain ⟨hslash, rfl⟩ := hc
    exact Quoted.read_close hslash hmore
  | case3 => cases h
  | case4 d ds ih =>
    obtain ⟨⟨t, r⟩, hread, heq⟩ := Option.map_eq_some_iff.1 h
    cases heq
    simp [Quoted.read, ih hread]
  | case5 ds hslash ih =>
    obtain ⟨⟨t, r⟩, hread, heq⟩ := Option.map_eq_some_iff.1 h
    cases heq
    simp [Quoted.read, hslash, ih hread]
  | case6 d ds hslash hd =>
    cases h
    simp [Quoted.read, hslash, hd]
  | case7 c d ds hslash hquote ih =>
    obtain ⟨⟨t, r⟩, hread, heq⟩ := Option.map_eq_some_iff.1 h
    cases heq
    rw [List.cons_append, Quoted.read_cons hslash hquote, ih hread]
    rfl

end Text

namespace Gql

open EntityQuery.Text

theorem continuesNumber_of_isBlank (previous : Char) {c : Char} (h : isBlank c = true) :
    continuesNumber previous c = false := by
  have hplain : (c.isDigit || c == '.' || c == 'e' || c == 'E') = false :=
    of_isBlank (p := fun c => c.isDigit || c == '.' || c == 'e' || c == 'E') (by decide) h
  have hsign : (c == '+' || c == '-') = false :=
    of_isBlank (p := fun c => c == '+' || c == '-') (by decide) h
  rw [continuesNumber, hplain, hsign]
  rfl

theorem numberRun_append {previous : Char} {cs run rest more : List Char}
    (h : numberRun previous cs = (run, rest)) (hmore : BlankNext more) :
    numberRun previous (cs ++ more) = (run, rest ++ more) := by
  induction cs generalizing previous run with
  | nil =>
    cases h
    cases more with
    | nil => rfl
    | cons c more =>
      rw [List.nil_append, numberRun, continuesNumber_of_isBlank previous (hmore c rfl)]
      rfl
  | cons c cs ih =>
    rw [numberRun] at h
    rw [List.cons_append, numberRun]
    split at h
    · next hcontinues =>
      cases hrun : numberRun c cs with
      | mk run rest =>
        rw [hrun] at h
        cases h
        rw [if_pos hcontinues, ih hrun]
    · next hstops =>
      cases h
      rw [if_neg hstops]
      rfl

/-- The longest run at the front of a text is the same if what follows does not go on with it. -/
theorem takeWhile_append {p : Char → Bool} (cs : List Char) {more : List Char}
    (hmore : ∀ c ∈ more.head?, p c = false) :
    (cs ++ more).takeWhile p = cs.takeWhile p ∧
      (cs ++ more).dropWhile p = cs.dropWhile p ++ more := by
  induction cs with
  | nil =>
    have hnone : ∀ c ∈ ([] : List Char), p c = true := by simp
    exact takeWhile_run hnone hmore
  | cons c cs ih =>
    by_cases hc : p c = true
    · simp [hc, ih]
    · simp [hc]

theorem continuesWord_next {more : List Char} (hmore : BlankNext more) :
    ∀ c ∈ more.head?, continuesWord c = false := fun c hc =>
  of_isBlank (p := continuesWord) (by decide +kernel) (hmore c hc)

theorem scanOperator_less {rest : List Char} (hequal : rest.head? ≠ some '=')
    (hgreater : rest.head? ≠ some '>') : scanOperator ('<' :: rest) = some (.less, rest) := by
  rw [scanOperator]
  · rintro _ rfl
    exact hequal rfl
  · rintro _ rfl
    exact hgreater rfl

theorem scanOperator_greater {rest : List Char} (hequal : rest.head? ≠ some '=') :
    scanOperator ('>' :: rest) = some (.greater, rest) := by
  rw [scanOperator]
  rintro _ rfl
  exact hequal rfl

/-- White space makes no longer operator of the one before it. -/
theorem scanOperator_append {cs rest more : List Char} {op : Operator}
    (h : scanOperator cs = some (op, rest)) (hmore : BlankNext more) :
    scanOperator (cs ++ more) = some (op, rest ++ more) := by
  -- What stands behind the operator is a character of the text, or else white space.
  have hnext : ∀ {c}, isBlank c = false → (∀ r, rest = c :: r → False) →
      (rest ++ more).head? ≠ some c := by
    intro c hc hrest
    cases rest with
    | nil => exact hmore.head?_ne hc
    | cons d ds =>
      rw [List.cons_append, List.head?_cons]
      rintro ⟨⟩
      exact hrest ds rfl
  unfold scanOperator at h
  split at h
  case h_8 => cases h
  case h_6 hequal hgreater =>
    cases h
    exact scanOperator_less (hnext (by decide) hequal) (hnext (by decide) hgreater)
  case h_7 hequal =>
    cases h
    exact scanOperator_greater (hnext (by decide) hequal)
  all_goals cases h; rfl

theorem startsNumber_append (c : Char) (cs : List Char) {more : List Char}
    (hmore : BlankNext more) : startsNumber c (cs ++ more) = startsNumber c cs := by
  cases cs with
  | cons d ds => rfl
  | nil =>
    cases more with
    | nil => rfl
    | cons d more =>
      have hdigit : d.isDigit = false :=
        of_isBlank (p := Char.isDigit) (by decide) (hmore d rfl)
      rw [List.nil_append, startsNumber, hdigit, Bool.and_false, startsNumber, Bool.and_false]

/-! ## Tokens -/

/-- The token at the front of a text is the same in front of white space. -/
theorem scan_append {c : Char} {cs rest more : List Char} {token : Token}
    (h : scan c cs = .ok (token, rest)) (hmore : BlankNext more) :
    scan c (cs ++ more) = .ok (token, rest ++ more) := by
  unfold scan at h ⊢
  -- The tests of the first characters come out the same, so both texts go the same way.
  rw [startsNumber_append c cs hmore]
  split_ifs at h ⊢ with hcomma hopen hclose hstar htext hname hnumber hword
  · cases h; rfl
  · cases h; rfl
  · cases h; rfl
  · cases h; rfl
  · have hquote : more.head? ≠ some c := hmore.head?_ne (by rcases htext with rfl | rfl <;> decide)
    split at h
    · next hread => cases h; rw [Quoted.read_append hread hquote]
    · cases h
  · have hquote : more.head? ≠ some c := hmore.head?_ne (by rw [hname]; decide)
    split at h
    · next hread => cases h; rw [Quoted.read_append hread hquote]
    · cases h
  · cases hrun : numberRun c cs with
    | mk run left =>
      rw [hrun] at h
      rw [numberRun_append hrun hmore]
      dsimp only at h ⊢
      split at h
      · next hread => cases h; rfl
      · cases h
  · obtain ⟨htake, hdrop⟩ := takeWhile_append cs (continuesWord_next hmore)
    cases h
    rw [htake, hdrop]
  · split at h
    · next hop => cases h; rw [← List.cons_append, scanOperator_append hop hmore]
    · cases h

/-- The tokens of a text are the same in front of white space. -/
theorem tokensFrom_append {total : Nat} {cs : List Char} {tokens : List Token}
    (h : tokensFrom total cs = .ok tokens) {more : List Char} (hmore : BlankNext more)
    (total' : Nat) :
    tokensFrom total' (cs ++ more) = (tokensFrom total' more).map (tokens ++ ·) := by
  fun_induction tokensFrom total cs generalizing tokens with
  | case1 =>
    cases h
    rw [List.nil_append]
    cases tokensFrom total' more <;> rfl
  | case2 c cs hblank ih => rw [List.cons_append, tokensFrom, if_pos hblank, ih h]
  | case3 => cases h
  | case4 => cases h
  | case5 c cs hblank token rest hscan tokens' hrest ih =>
    cases h
    rw [List.cons_append, tokensFrom_of_scan (Bool.eq_false_iff.2 hblank) (scan_append hscan hmore),
      ih hrest]
    cases tokensFrom total' more <;> rfl

theorem tokensFrom_blanks (total : Nat) {blanks : List Char} (h : ∀ c ∈ blanks, isBlank c = true)
    (rest : List Char) : tokensFrom total (blanks ++ rest) = tokensFrom total rest := by
  induction blanks with
  | nil => rfl
  | cons c cs ih =>
    rw [List.cons_append, tokensFrom, if_pos (h c List.mem_cons_self),
      ih fun d hd => h d (List.mem_cons_of_mem _ hd)]

/-! ## Positions -/

/-- The error of a text behind `n` characters: an index is counted from the first of them. -/
def SyntaxError.behind (n : Nat) : SyntaxError → SyntaxError
  | .unexpectedChar c index => .unexpectedChar c (n + index)
  | e => e

theorem ScanError.at_add (c : Char) (n index : Nat) (e : ScanError) :
    e.at c (n + index) = (e.at c index).behind n := by
  cases e <;> rfl

theorem tokensFrom_of_scan_error {total : Nat} {c : Char} {cs : List Char} {e : ScanError}
    (hblank : isBlank c = false) (hscan : scan c cs = .error e) :
    tokensFrom total (c :: cs) = .error (e.at c (total - (cs.length + 1))) := by
  rw [tokensFrom, if_neg (Bool.eq_false_iff.1 hblank)]
  split
  · next hfail =>
    rw [hscan] at hfail
    cases hfail
    rfl
  · next hok =>
    rw [hscan] at hok
    cases hok

/-- Behind `n` characters a text has the same tokens, or the same error with its index moved. -/
theorem tokensFrom_behind (n total : Nat) {cs : List Char} (h : cs.length ≤ total) :
    tokensFrom (n + total) cs = (tokensFrom total cs).mapError (SyntaxError.behind n) := by
  fun_induction tokensFrom total cs with
  | case1 => rw [tokensFrom]; rfl
  | case2 c cs hblank ih =>
    rw [List.length_cons] at h
    rw [tokensFrom, if_pos hblank, ih (by omega)]
  | case3 c cs hblank e hscan =>
    rw [List.length_cons] at h
    rw [tokensFrom_of_scan_error (Bool.eq_false_iff.2 hblank) hscan, Nat.add_sub_assoc h,
      ScanError.at_add]
    rfl
  | case4 c cs hblank token rest hscan e hrest ih =>
    have hle := scan_length hscan
    rw [List.length_cons] at h
    rw [tokensFrom_of_scan (Bool.eq_false_iff.2 hblank) hscan, ih (by omega), hrest]
    rfl
  | case5 c cs hblank token rest hscan tokens hrest ih =>
    have hle := scan_length hscan
    rw [List.length_cons] at h
    rw [tokensFrom_of_scan (Bool.eq_false_iff.2 hblank) hscan, ih (by omega), hrest]
    rfl

/-! ## The result -/

/-- White space that keeps two parts of a text apart. -/
def IsGap (gap : String) : Prop := gap ≠ "" ∧ allBlank gap = true

theorem IsGap.blank {gap : String} (h : IsGap gap) : ∀ c ∈ gap.toList, isBlank c = true :=
  List.all_eq_true.1 h.2

theorem IsGap.blankNext {gap : String} (h : IsGap gap) (rest : List Char) :
    BlankNext (gap.toList ++ rest) := by
  cases hgap : gap.toList with
  | nil => exact absurd (String.toList_eq_nil_iff.1 hgap) h.1
  | cons c cs =>
    intro d hd
    cases hd
    exact h.blank c (hgap ▸ List.mem_cons_self)

/-- Two parts with white space between them. -/
theorem tokenize_gap {a gap : String} {tokens : List Token} (ha : tokenize a = .ok tokens)
    (hgap : IsGap gap) (b : String) :
    tokenize (a ++ gap ++ b) =
      ((tokenize b).mapError (SyntaxError.behind (a.length + gap.length))).map (tokens ++ ·) := by
  have hlength : (a.toList ++ (gap.toList ++ b.toList)).length =
      a.length + gap.length + b.toList.length := by
    simp only [List.length_append, String.length_toList]
    omega
  rw [tokenize, String.toList_append, String.toList_append, List.append_assoc,
    tokensFrom_append ha (hgap.blankNext b.toList), tokensFrom_blanks _ hgap.blank, hlength,
    tokensFrom_behind _ _ (Nat.le_refl _), tokenize]

/-- If a text is cut into tokens, white space and any second text may follow it: if the second text
is cut into tokens, the tokens of both are those of the whole, and if not, the whole has the error
of the second text.  So it does not matter which white space it is, or how much. -/
theorem tokenize_across_gap {a gap : String} {tokens : List Token} (ha : tokenize a = .ok tokens)
    (hgap : IsGap gap) (b : String) :
    (∀ more, tokenize b = .ok more → tokenize (a ++ gap ++ b) = .ok (tokens ++ more)) ∧
      (∀ e, tokenize b = .error e →
        tokenize (a ++ gap ++ b) = .error (e.behind (a.length + gap.length))) ∧
      ∀ other, IsGap other →
        (tokenize (a ++ other ++ b)).toOption = (tokenize (a ++ gap ++ b)).toOption := by
  refine ⟨fun more hb => ?_, fun e hb => ?_, fun other hother => ?_⟩
  · rw [tokenize_gap ha hgap, hb]
    rfl
  · rw [tokenize_gap ha hgap, hb]
    rfl
  · rw [tokenize_gap ha hgap, tokenize_gap ha hother]
    cases tokenize b <;> rfl

/-- White space between the two characters of an operator makes two operators of them, and an error
behind white space is found where it is. -/
theorem tokenize_across_gap_operators :
    tokenize ("<" ++ "\t\u2003" ++ "=") = .ok [.operator .less, .operator .equal] ∧
      tokenize ("<" ++ "\t\u2003" ++ "!") = .error (.unexpectedChar '!' 3) := by
  have hless : tokenize "<" = .ok [.operator .less] := Lexes.tokenize (lexes_operator .less)
  have hequal : tokenize "=" = .ok [.operator .equal] := Lexes.tokenize (lexes_operator .equal)
  have hmark : tokenize "!" = .error (.unexpectedChar '!' 0) := by
    have hfail : tokensFrom 1 ['!'] = .error (ScanError.unexpected.at '!' 0) :=
      tokensFrom_of_scan_error (by decide) rfl
    exact hfail
  have hgap : IsGap "\t\u2003" := ⟨by decide, by decide⟩
  obtain ⟨htokens, -, -⟩ := tokenize_across_gap hless hgap "="
  obtain ⟨-, herror, -⟩ := tokenize_across_gap hless hgap "!"
  exact ⟨htokens _ hequal, herror _ hmark⟩

end Gql

end EntityQuery
