import EntityQuery.Proofs.Gql.Recognition

/-!
# Values and their trees

The parser reads a value with the open arrays on a stack, and the grammar gives it a tree.

* From trees.  `startValue_tokens` reads the tokens of a tree, in whatever arrays it stands.
* To trees.  `exists_valueTree` finds the tree of a value that was read.
* The result.  `recognizes_value`.
-/

namespace EntityQuery.Gql

/-! ## From trees -/

theorem startValue_spelling {keyword : Keyword} (s : Spelling keyword) {v : Json}
    (hkeyword : keyword ≠ .array) (hvalue : wordValue? s.word = some v) (rest : List Token)
    (stack : List (List Json)) :
    startValue (.word s.word :: rest) stack = finishValue v rest stack := by
  unfold startValue
  rw [s.isWord_eq_false hkeyword.symm, hvalue]
  rfl

/-- An array that is not empty begins with its first value. -/
theorem startValue_first (s : Spelling .array) (first : ValueTree) (rest : List Token)
    (stack : List (List Json)) :
    startValue (.word s.word :: .openParen :: (first.tokens ++ rest)) stack =
      startValue (first.tokens ++ rest) ([] :: stack) := by
  have hhead : ∀ more, first.tokens ++ rest ≠ .closeParen :: more := by
    intro more
    cases first <;> nofun
  rw [startValue, if_pos s.isWord]
  exact hhead

theorem wordValue?_trueWord (s : Spelling .true) : wordValue? s.word = some (.bool true) := by
  rw [wordValue?, if_pos s.isWord]

theorem wordValue?_falseWord (s : Spelling .false) : wordValue? s.word = some (.bool false) := by
  have htrue : Keyword.true.isWord s.word = false := s.isWord_eq_false (by decide)
  simp [wordValue?, htrue, s.isWord]

theorem wordValue?_nullWord (s : Spelling .null) : wordValue? s.word = some .null := by
  have htrue : Keyword.true.isWord s.word = false := s.isWord_eq_false (by decide)
  have hfalse : Keyword.false.isWord s.word = false := s.isWord_eq_false (by decide)
  simp [wordValue?, htrue, hfalse, s.isWord]

mutual

/-- A value is read, and what follows it is left. -/
theorem startValue_tokens : ∀ (t : ValueTree) (rest : List Token) (stack : List (List Json)),
    startValue (t.tokens ++ rest) stack = finishValue t.json rest stack
  | .text s, rest, stack => rfl
  | .number n, rest, stack => rfl
  | .true s, rest, stack => startValue_spelling s nofun (wordValue?_trueWord s) rest stack
  | .false s, rest, stack => startValue_spelling s nofun (wordValue?_falseWord s) rest stack
  | .null s, rest, stack => startValue_spelling s nofun (wordValue?_nullWord s) rest stack
  | .emptyArray s, rest, stack => by
    show startValue (.word s.word :: .openParen :: .closeParen :: rest) stack = _
    rw [startValue, if_pos s.isWord]
    rfl
  | .array s first others, rest, stack => by
    have hitems := finishValue_itemsTokens others first.json [] rest stack
    show startValue (.word s.word :: .openParen ::
      (first.tokens ++ (ValueTree.itemsTokens others ++ [.closeParen]) ++ rest)) stack = _
    rw [List.append_assoc, List.append_assoc, startValue_first, startValue_tokens first]
    exact hitems

/-- The further values of an array are read up to the parenthesis that closes it. -/
theorem finishValue_itemsTokens : ∀ (items : List ValueTree) (v : Json) (done : List Json)
    (rest : List Token) (stack : List (List Json)),
    finishValue v (ValueTree.itemsTokens items ++ .closeParen :: rest) (done :: stack) =
      finishValue (.array (done.reverse ++ v :: ValueTree.itemsJson items)) rest stack
  | [], v, done, rest, stack => by
    show finishValue (.array (v :: done).reverse) rest stack = _
    rw [List.reverse_cons]
    rfl
  | item :: items, v, done, rest, stack => by
    have hitems := finishValue_itemsTokens items item.json (v :: done) rest stack
    show startValue (item.tokens ++ ValueTree.itemsTokens items ++ .closeParen :: rest)
      ((v :: done) :: stack) = _
    rw [List.append_assoc, startValue_tokens item, hitems, List.reverse_cons, List.append_assoc]
    rfl

end

/-! ## To trees -/

theorem exists_valueTree_of_wordValue? {w : String} {v : Json} (h : wordValue? w = some v) :
    ∃ t : ValueTree, t.tokens = [.word w] ∧ t.json = v := by
  rw [wordValue?] at h
  split at h
  · next hword => cases h; exact ⟨.true ⟨w, hword⟩, rfl, rfl⟩
  · split at h
    · next hword => cases h; exact ⟨.false ⟨w, hword⟩, rfl, rfl⟩
    · split at h
      · next hword => cases h; exact ⟨.null ⟨w, hword⟩, rfl, rfl⟩
      · cases h

/-- What is read as a value begins with the tokens of a tree, and what is read up to the end of an
array begins with those of its further values.  The induction is on the number of tokens. -/
theorem exists_valueTree (n : Nat) :
    (∀ all stack result, all.length ≤ n → startValue all stack = .ok result →
      ∃ (t : ValueTree) (rest : List Token), all = t.tokens ++ rest ∧
        finishValue t.json rest stack = .ok result) ∧
    (∀ all v done stack result, all.length ≤ n → finishValue v all (done :: stack) = .ok result →
      ∃ (items : List ValueTree) (rest : List Token),
        all = ValueTree.itemsTokens items ++ .closeParen :: rest ∧
        finishValue (.array (done.reverse ++ v :: ValueTree.itemsJson items)) rest stack =
          .ok result) := by
  induction n with
  | zero =>
    constructor
    · intro all stack result hn h
      cases List.length_eq_zero_iff.1 (Nat.le_zero.1 hn)
      cases h
    · intro all v done stack result hn h
      cases List.length_eq_zero_iff.1 (Nat.le_zero.1 hn)
      cases h
  | succ n ih =>
    constructor
    · intro all stack result hn h
      cases all with
      | nil => cases h
      | cons token tail =>
        rw [List.length_cons] at hn
        cases token with
        | text s => exact ⟨.text s, tail, rfl, h⟩
        | number m => exact ⟨.number m, tail, rfl, h⟩
        | word w =>
          unfold startValue at h
          split at h
          · next harray =>
            split at h
            · cases h
            · next more => exact ⟨.emptyArray ⟨w, harray⟩, more, rfl, h⟩
            · next more _ =>
              rw [List.length_cons] at hn
              obtain ⟨first, rest, rfl, hfirst⟩ := ih.1 _ _ _ (by omega) h
              rw [List.length_append] at hn
              obtain ⟨others, last, rfl, hothers⟩ := ih.2 _ _ _ _ _ (by omega) hfirst
              refine ⟨.array ⟨w, harray⟩ first others, last, ?_, hothers⟩
              simp [ValueTree.tokens]
            · cases h
          · split at h
            · next v hv =>
              obtain ⟨t, htokens, rfl⟩ := exists_valueTree_of_wordValue? hv
              exact ⟨t, tail, by rw [htokens]; rfl, h⟩
            · cases h
        | quoted | operator | comma | openParen | closeParen | star => cases h
    · intro all v done stack result hn h
      cases all with
      | nil => cases h
      | cons token tail =>
        rw [List.length_cons] at hn
        cases token with
        | closeParen =>
          refine ⟨[], tail, rfl, ?_⟩
          rw [← h]
          show _ = finishValue (.array (v :: done).reverse) tail stack
          rw [List.reverse_cons]
          rfl
        | comma =>
          obtain ⟨item, rest, rfl, hitem⟩ := ih.1 _ _ _ (by omega) (show
            startValue tail ((v :: done) :: stack) = .ok result from h)
          rw [List.length_append] at hn
          obtain ⟨items, last, rfl, hitems⟩ := ih.2 _ _ _ _ _ (by omega) hitem
          refine ⟨item :: items, last, by simp [ValueTree.itemsTokens], ?_⟩
          rw [List.reverse_cons, List.append_assoc] at hitems
          exact hitems
        | word | quoted | text | number | operator | openParen | star => cases h

/-! ## The result -/

theorem finishValue_nil (v : Json) (rest : List Token) :
    finishValue v rest [] = .ok (v, rest) := by
  cases rest <;> rfl

theorem startValue_tokens_nil (t : ValueTree) (rest : List Token) :
    startValue (t.tokens ++ rest) [] = .ok (t.json, rest) := by
  rw [startValue_tokens, finishValue_nil]

/-- Trees at the begin of the same tokens stand over the same of them and say the same. -/
theorem valueTree_append_eq {t t' : ValueTree} {rest rest' : List Token}
    (h : t.tokens ++ rest = t'.tokens ++ rest') :
    t.tokens = t'.tokens ∧ t.json = t'.json ∧ rest = rest' := by
  have hread := startValue_tokens_nil t rest
  rw [h, startValue_tokens_nil] at hread
  obtain ⟨hjson, rfl⟩ := Prod.mk.inj (Except.ok.inj hread)
  exact ⟨List.append_cancel_right h, hjson.symm, rfl⟩

mutual

/-- Trees over the same tokens are the same.  They say the same, so only trees of one form are
compared. -/
theorem valueTree_eq : ∀ (t t' : ValueTree), t.tokens = t'.tokens → t.json = t'.json → t = t'
  | .text s, t', h, hjson => by
    cases t' <;> simp only [ValueTree.json, reduceCtorEq] at hjson
    cases hjson
    rfl
  | .number n, t', h, hjson => by
    cases t' <;> simp only [ValueTree.json, reduceCtorEq] at hjson
    cases hjson
    rfl
  | .true s, t', h, hjson => by
    cases t' <;> simp only [ValueTree.json, Json.bool.injEq, reduceCtorEq] at hjson
    exact congrArg _ (Spelling.eq_of_word (Token.word.inj (List.cons.inj h).1))
  | .false s, t', h, hjson => by
    cases t' <;> simp only [ValueTree.json, Json.bool.injEq, reduceCtorEq] at hjson
    exact congrArg _ (Spelling.eq_of_word (Token.word.inj (List.cons.inj h).1))
  | .null s, t', h, hjson => by
    cases t' <;> simp only [ValueTree.json, reduceCtorEq] at hjson
    exact congrArg _ (Spelling.eq_of_word (Token.word.inj (List.cons.inj h).1))
  | .emptyArray s, t', h, hjson => by
    cases t' <;> simp only [ValueTree.json, Json.array.injEq, reduceCtorEq] at hjson
    exact congrArg _ (Spelling.eq_of_word (Token.word.inj (List.cons.inj h).1))
  | .array s first others, t', h, hjson => by
    cases t' <;> simp only [ValueTree.json, Json.array.injEq, reduceCtorEq] at hjson
    next s' first' others' =>
      obtain ⟨hword, hrest⟩ := List.cons.inj h
      obtain ⟨hfirst, hfirstJson, hothers⟩ := valueTree_append_eq (List.cons.inj hrest).2
      rw [Spelling.eq_of_word (Token.word.inj hword),
        valueTree_eq first first' hfirst hfirstJson,
        itemTrees_eq others others' (List.append_cancel_right hothers)]

theorem itemTrees_eq : ∀ (items items' : List ValueTree),
    ValueTree.itemsTokens items = ValueTree.itemsTokens items' → items = items'
  | [], [], _ => rfl
  | [], _ :: _, h => nomatch h
  | _ :: _, [], h => nomatch h
  | t :: ts, t' :: ts', h => by
    obtain ⟨hfirst, hjson, hothers⟩ := valueTree_append_eq (List.cons.inj h).2
    rw [valueTree_eq t t' hfirst hjson, itemTrees_eq ts ts' hothers]

end

theorem recognizes_value :
    Recognizes (fun all => outcome (readValue all)) ValueTree.tokens ValueTree.json Anywhere := by
  refine .of_injective ?_ ?_ valueTree_eq
  · intro all v rest h
    rw [outcome_readValue] at h
    cases hread : startValue all [] with
    | error e => rw [hread] at h; cases h
    | ok result =>
      rw [hread] at h
      cases h
      obtain ⟨t, last, rfl, hlast⟩ := (exists_valueTree all.length).1 all [] _ (Nat.le_refl _) hread
      rw [finishValue_nil] at hlast
      cases hlast
      exact ⟨t, rfl, rfl⟩
  · intro t rest _
    rw [outcome_readValue, startValue_tokens_nil]
    rfl

end EntityQuery.Gql
