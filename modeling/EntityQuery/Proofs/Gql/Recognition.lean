import EntityQuery.Proofs.Gql.Derivation
import EntityQuery.Proofs.Gql.Readers

/-!
# Readers that recognize a grammar

`Recognizes` ties a reader to the trees of one part of the grammar: what it reads is what
some tree says, it reads what any tree stands over, and no other tree stands over the same
tokens.  The last two may depend on what follows, since a list goes on while commas follow
and a part may be missing.

* Keywords.  `after_eq_some_iff` says what it is that a keyword comes next, and
  `eq_of_isWord` that no word is two keywords.
* Tokens.  `Recognizes.of_token` is for readers of one token.
* Sequences.  `Recognizes.seq` puts a reader behind another, and `Recognizes.image` gives the
  trees another form.
* Lists.  `Recognizes.repeated` is the loop of the parser, and `Recognizes.listed` a list with
  commas.
* Parts.  `Recognizes.headed` is for a part behind a keyword and `Recognizes.optional` for
  one that may be missing.
-/

namespace EntityQuery.Gql

variable {τ υ α β : Type}

/-! ## Keywords -/

/-- The tokens behind the keyword, if it comes next. -/
def after (keyword : Keyword) (all : List Token) : Option (List Token) :=
  (eat keyword all).map (·.1)

theorem after_eq_some_iff {keyword : Keyword} {all rest : List Token} :
    after keyword all = some rest ↔ ∃ s : Spelling keyword, all = .word s.word :: rest := by
  constructor
  · intro h
    obtain ⟨more, hmore, rfl⟩ := Option.map_eq_some_iff.1 h
    unfold eat at hmore
    split at hmore
    · next w rest =>
      split at hmore
      · next hword =>
        cases hmore
        exact ⟨⟨w, hword⟩, rfl⟩
      · cases hmore
    · cases hmore
  · rintro ⟨s, rfl⟩
    rw [after, eat_word s.isWord]
    rfl

theorem after_eq_none_iff {keyword : Keyword} {all : List Token} :
    after keyword all = none ↔ nextIs keyword all = false := by
  constructor
  · intro h
    cases all with
    | nil => rfl
    | cons token rest =>
      cases token with
      | word w =>
        refine Bool.eq_false_iff.2 fun hword => ?_
        rw [after_eq_some_iff.2 ⟨⟨w, hword⟩, rfl⟩] at h
        cases h
      | quoted | text | number | operator | comma | openParen | closeParen | star => rfl
  · intro h
    rw [after, eat_eq_none h]
    rfl

/-- A word is one keyword at most. -/
theorem eq_of_isWord {keyword other : Keyword} {word : String}
    (h : keyword.isWord word = true) (hother : other.isWord word = true) : keyword = other := by
  rw [Keyword.isWord, beq_iff_eq] at h hother
  have htext : keyword.text = other.text := String.toList_inj.1 (h.symm.trans hother)
  cases keyword <;> cases other <;> simp_all [Keyword.text]

theorem Spelling.isWord_eq_false {keyword other : Keyword} (s : Spelling keyword)
    (h : other ≠ keyword) : other.isWord s.word = false :=
  Bool.eq_false_iff.2 fun hword => h (eq_of_isWord hword s.isWord)

theorem Spelling.eq_of_word {keyword : Keyword} {s s' : Spelling keyword}
    (h : s.word = s'.word) : s = s' := by
  obtain ⟨word, hword⟩ := s
  cases h
  rfl

/-- The keyword of a part is no other one. -/
theorem nextIs_headed {keyword other : Keyword} (h : keyword ≠ other) (t : Headed other τ)
    (part : τ → List Token) (rest : List Token) :
    nextIs keyword (t.tokens part ++ rest) = false :=
  t.keyword.isWord_eq_false h

/-- A part that may be missing begins with its own keyword. -/
theorem nextIs_optional {keyword other : Keyword} (h : keyword ≠ other)
    (t : Option (Headed other τ)) (part : τ → List Token) {rest : List Token}
    (hrest : nextIs keyword rest = false) :
    nextIs keyword (optionalTokens (Headed.tokens part) t ++ rest) = false := by
  cases t with
  | none => exact hrest
  | some t => exact nextIs_headed h t part rest

/-! ## Recognition -/

/-- The reader reads what the trees of a part of the grammar say, if the part ends there. -/
structure Recognizes (read : List Token → Option (α × List Token)) (tokens : τ → List Token)
    (value : τ → α) (Ends : List Token → Prop) : Prop where
  /-- What is read is what a tree says that stands over the tokens taken. -/
  sound : ∀ {all x rest}, read all = some (x, rest) → ∃ t, all = tokens t ++ rest ∧ x = value t
  /-- What a tree stands over is read. -/
  complete : ∀ t {rest}, Ends rest → read (tokens t ++ rest) = some (value t, rest)
  /-- One tree at most stands over the begin of given tokens. -/
  unique : ∀ {t t' rest rest'}, Ends rest → Ends rest' → tokens t ++ rest = tokens t' ++ rest' →
    t = t' ∧ rest = rest'

/-- The part ends wherever it does. -/
def Anywhere : List Token → Prop := fun _ => True

namespace Recognizes

variable {read : List Token → Option (α × List Token)} {tokens : τ → List Token} {value : τ → α}
  {Ends : List Token → Prop}

/-- A part that ends under a condition ends under a stronger one. -/
theorem mono (h : Recognizes read tokens value Ends) (Ends' : List Token → Prop)
    (hends : ∀ {rest}, Ends' rest → Ends rest) : Recognizes read tokens value Ends' where
  sound := h.sound
  complete t _ hrest := h.complete t (hends hrest)
  unique hrest hrest' heq := h.unique (hends hrest) (hends hrest') heq

/-- A reader finds its way alone, so trees over the same tokens say the same and end together. -/
theorem of_injective
    (hsound : ∀ {all x rest}, read all = some (x, rest) → ∃ t, all = tokens t ++ rest ∧ x = value t)
    (hcomplete : ∀ t {rest}, Ends rest → read (tokens t ++ rest) = some (value t, rest))
    (htokens : ∀ t t', tokens t = tokens t' → value t = value t' → t = t') :
    Recognizes read tokens value Ends where
  sound := hsound
  complete := hcomplete
  unique := by
    intro t t' rest rest' hrest hrest' heq
    have hread := hcomplete t hrest
    rw [heq, hcomplete t' hrest'] at hread
    obtain ⟨hvalue, rfl⟩ := Prod.mk.inj (Option.some.inj hread)
    exact ⟨htokens t t' (List.append_cancel_right heq) hvalue.symm, rfl⟩

/-! ## Tokens -/

/-- A reader of one token. -/
theorem of_token {token : τ → Token} (htoken : Function.Injective token) (hnil : read [] = none)
    (hread : ∀ found rest x last, read (found :: rest) = some (x, last) ↔
      last = rest ∧ ∃ t, found = token t ∧ x = value t) :
    Recognizes read (fun t => [token t]) value Anywhere where
  sound := by
    intro all x rest hsome
    cases all with
    | nil =>
      rw [hnil] at hsome
      cases hsome
    | cons found more =>
      obtain ⟨rfl, t, rfl, rfl⟩ := (hread ..).1 hsome
      exact ⟨t, rfl, rfl⟩
  complete t rest _ := (hread (token t) rest (value t) rest).2 ⟨rfl, t, rfl, rfl⟩
  unique _ _ heq := by
    obtain ⟨hhead, hrest⟩ := List.cons.inj heq
    exact ⟨htoken hhead, hrest⟩

/-! ## Sequences -/

/-- One part behind another.  The first has to end where the second begins. -/
theorem seq (h : Recognizes read tokens value Ends)
    {read' : List Token → Option (β × List Token)} {tokens' : υ → List Token} {value' : υ → β}
    {Ends' : List Token → Prop} (h' : Recognizes read' tokens' value' Ends')
    (hends : ∀ t {rest}, Ends' rest → Ends (tokens' t ++ rest)) :
    Recognizes
      (fun all => (read all).bind fun p => (read' p.2).bind fun q => some ((p.1, q.1), q.2))
      (fun t : τ × υ => tokens t.1 ++ tokens' t.2) (fun t => (value t.1, value' t.2)) Ends' where
  sound := by
    intro all x rest hread
    obtain ⟨⟨first, middle⟩, hfirst, hread⟩ := Option.bind_eq_some_iff.1 hread
    obtain ⟨⟨second, last⟩, hsecond, heq⟩ := Option.bind_eq_some_iff.1 hread
    cases heq
    obtain ⟨t, rfl, rfl⟩ := h.sound hfirst
    obtain ⟨t', rfl, rfl⟩ := h'.sound hsecond
    exact ⟨(t, t'), (List.append_assoc ..).symm, rfl⟩
  complete t rest hrest := by
    simp only [List.append_assoc, h.complete t.1 (hends t.2 hrest), Option.bind_some,
      h'.complete t.2 hrest]
  unique := by
    rintro ⟨t, u⟩ ⟨t', u'⟩ rest rest' hrest hrest' heq
    simp only [List.append_assoc] at heq
    obtain ⟨rfl, hsecond⟩ := h.unique (hends u hrest) (hends u' hrest') heq
    obtain ⟨rfl, hlast⟩ := h'.unique hrest hrest' hsecond
    exact ⟨rfl, hlast⟩

/-- The trees of a part in another form, which must leave out none. -/
theorem image (h : Recognizes read tokens value Ends)
    {read' : List Token → Option (β × List Token)} {tokens' : υ → List Token} {value' : υ → β}
    (mk : τ → υ) (say : α → β) (hmk : Function.Surjective mk)
    (htokens : ∀ t, tokens' (mk t) = tokens t) (hvalue : ∀ t, value' (mk t) = say (value t))
    (hread : ∀ all, read' all = (read all).bind fun p => some (say p.1, p.2)) :
    Recognizes read' tokens' value' Ends where
  sound := by
    intro all y rest hsome
    rw [hread, Option.bind_eq_some_iff] at hsome
    obtain ⟨⟨x, last⟩, hx, heq⟩ := hsome
    cases heq
    obtain ⟨t, rfl, rfl⟩ := h.sound hx
    exact ⟨mk t, by rw [htokens], (hvalue t).symm⟩
  complete u rest hrest := by
    obtain ⟨t, rfl⟩ := hmk u
    rw [htokens, hvalue, hread, h.complete t hrest]
    rfl
  unique := by
    intro u u' rest rest' hrest hrest' heq
    obtain ⟨t, rfl⟩ := hmk u
    obtain ⟨t', rfl⟩ := hmk u'
    rw [htokens, htokens] at heq
    obtain ⟨rfl, hlast⟩ := h.unique hrest hrest' heq
    exact ⟨rfl, hlast⟩

/-- What a part says in another form. -/
theorem map (h : Recognizes read tokens value Ends) (say : α → β) :
    Recognizes (fun all => (read all).bind fun p => some (say p.1, p.2)) tokens
      (fun t => say (value t)) Ends :=
  h.image id say Function.surjective_id (fun _ => rfl) (fun _ => rfl) fun _ => rfl

/-- A part without tokens. -/
theorem nothing (x : α) :
    Recognizes (fun all => some (x, all)) (fun _ : Unit => []) (fun _ => x) Anywhere where
  sound := by
    intro all y rest h
    cases h
    exact ⟨(), rfl, rfl⟩
  complete _ _ _ := rfl
  unique _ _ heq := ⟨rfl, heq⟩

/-- A part that there is not. -/
theorem never :
    Recognizes (fun _ => none) (fun t : Empty => nomatch t) (fun t => (nomatch t : α)) Anywhere where
  sound := nofun
  complete := nofun
  unique {t} := nomatch t

/-! ## Lists -/

section Loops

variable {item : (tokens : List Token) → Except SyntaxError (Option (α × Rest tokens))}

/-- The item that a loop takes next, if it takes one. -/
def takenItem (item : (tokens : List Token) → Except SyntaxError (Option (α × Rest tokens)))
    (all : List Token) : Option (α × List Token) :=
  (taken (item all)).join

/-- The first of several parts ends where the next begins, or where all of them do. -/
theorem ends_flatMap (hends : ∀ t rest, Ends (tokens t ++ rest)) (ts : List τ)
    {rest : List Token} (hrest : Ends rest) : Ends (ts.flatMap tokens ++ rest) := by
  cases ts with
  | nil => exact hrest
  | cons next ts =>
    rw [List.flatMap_cons, List.append_assoc]
    exact hends next _

/-- A loop over items.  It stops where no item begins. -/
theorem repeated {Stops : List Token → Prop}
    (h : Recognizes (takenItem item) tokens value Ends)
    (hstop : ∀ {rest}, Stops rest → taken (item rest) = some none)
    (hends : ∀ t rest, Ends (tokens t ++ rest)) :
    Recognizes (fun all => outcome (Gql.repeated item all)) (fun ts => ts.flatMap tokens)
      (List.map value) (fun rest => Stops rest ∧ Ends rest) where
  sound := by
    intro all xs rest hread
    induction xs generalizing all with
    | nil =>
      rw [outcome_repeated] at hread
      obtain ⟨next, hnext, hread⟩ := Option.bind_eq_some_iff.1 hread
      cases next with
      | none =>
        cases hread
        exact ⟨[], rfl, rfl⟩
      | some pair =>
        obtain ⟨_, -, heq⟩ := Option.map_eq_some_iff.1 hread
        cases heq
    | cons x xs ih =>
      rw [outcome_repeated] at hread
      obtain ⟨next, hnext, hread⟩ := Option.bind_eq_some_iff.1 hread
      cases next with
      | none => cases hread
      | some pair =>
        obtain ⟨y, more⟩ := pair
        obtain ⟨⟨ys, last⟩, hys, heq⟩ := Option.map_eq_some_iff.1 hread
        cases heq
        have hitem : takenItem item all = some (x, more) := by rw [takenItem, hnext]; rfl
        obtain ⟨t, rfl, rfl⟩ := h.sound hitem
        obtain ⟨ts, rfl, rfl⟩ := ih hys
        exact ⟨t :: ts, by rw [List.flatMap_cons, List.append_assoc], rfl⟩
  complete ts rest hrest := by
    have hitem : ∀ t more, Ends more →
        taken (item (tokens t ++ more)) = some (some (value t, more)) := by
      intro t more hmore
      exact Option.join_eq_some_iff.1 (h.complete t hmore)
    induction ts with
    | nil =>
      rw [outcome_repeated, List.flatMap_nil, List.nil_append, hstop hrest.1]
      rfl
    | cons t ts ih =>
      rw [outcome_repeated, List.flatMap_cons, List.append_assoc,
        hitem t _ (ends_flatMap hends ts hrest.2)]
      show (outcome (Gql.repeated item (ts.flatMap tokens ++ rest))).map _ = _
      rw [ih]
      rfl
  unique := by
    -- where a loop stops no item begins
    have hnot : ∀ t more, Ends more → ¬Stops (tokens t ++ more) := by
      intro t more hmore hstops
      have hread := h.complete t hmore
      rw [takenItem, hstop hstops] at hread
      cases hread
    intro ts ts' rest rest' hrest hrest' heq
    induction ts generalizing ts' with
    | nil =>
      cases ts' with
      | nil => exact ⟨rfl, heq⟩
      | cons t' ts' =>
        rw [List.flatMap_nil, List.nil_append, List.flatMap_cons, List.append_assoc] at heq
        exact absurd (heq ▸ hrest.1) (hnot t' _ (ends_flatMap hends ts' hrest'.2))
    | cons t ts ih =>
      cases ts' with
      | nil =>
        rw [List.flatMap_nil, List.nil_append, List.flatMap_cons, List.append_assoc] at heq
        exact absurd (heq ▸ hrest'.1) (hnot t _ (ends_flatMap hends ts hrest.2))
      | cons t' ts' =>
        rw [List.flatMap_cons, List.append_assoc, List.flatMap_cons, List.append_assoc] at heq
        obtain ⟨rfl, hothers⟩ := h.unique (ends_flatMap hends ts hrest.2)
          (ends_flatMap hends ts' hrest'.2) heq
        obtain ⟨rfl, hlast⟩ := ih hothers
        exact ⟨rfl, hlast⟩

/-- A list with commas.  The loop takes a part behind each comma. -/
theorem listed {Stops : List Token → Prop} (h : Recognizes read tokens value Ends)
    (hcomma : ∀ more, takenItem item (.comma :: more) = read more)
    (hother : ∀ all, (∀ more, all ≠ .comma :: more) → takenItem item all = none)
    (hstop : ∀ {rest}, Stops rest → taken (item rest) = some none)
    (hends : ∀ rest, Ends (.comma :: rest)) :
    Recognizes
      (fun all => (read all).bind fun p =>
        (outcome (Gql.repeated item p.2)).bind fun q => some (p.1 :: q.1, q.2))
      (Listed.tokens tokens) (Listed.values value) (fun rest => Stops rest ∧ Ends rest) := by
  have hitem : Recognizes (takenItem item) (fun t => .comma :: tokens t) value Ends := by
    refine ⟨?_, ?_, ?_⟩
    · intro all x rest hread
      by_cases hbegins : ∃ more, all = .comma :: more
      · obtain ⟨more, rfl⟩ := hbegins
        rw [hcomma] at hread
        obtain ⟨t, rfl, rfl⟩ := h.sound hread
        exact ⟨t, rfl, rfl⟩
      · rw [hother all fun more hmore => hbegins ⟨more, hmore⟩] at hread
        cases hread
    · intro t rest hrest
      rw [List.cons_append, hcomma]
      exact h.complete t hrest
    · intro t t' rest rest' hrest hrest' heq
      exact h.unique hrest hrest' (List.cons.inj heq).2
  have hloop := hitem.repeated hstop fun t rest => hends _
  refine (h.seq hloop ?_).image (fun t => ⟨t.1, t.2⟩) (fun p => p.1 :: p.2) ?_ ?_ ?_ ?_
  · exact fun ts _ hrest => ends_flatMap (fun t more => hends _) ts hrest.2
  · exact fun t => ⟨(t.first, t.others), rfl⟩
  · exact fun t => rfl
  · exact fun t => rfl
  · intro all
    simp only [Option.bind_assoc, Option.bind_some]

/-- A list whose loop stops wherever no comma comes next. -/
theorem commaSeparated (h : Recognizes read tokens value Ends)
    (hcomma : ∀ more, taken (item (.comma :: more)) =
      (read more).bind fun p => some (some (p.1, p.2)))
    (hother : ∀ all, (∀ more, all ≠ .comma :: more) → taken (item all) = some none)
    (hends : ∀ rest, Ends (.comma :: rest)) :
    Recognizes
      (fun all => (read all).bind fun p =>
        (outcome (Gql.repeated item p.2)).bind fun q => some (p.1 :: q.1, q.2))
      (Listed.tokens tokens) (Listed.values value)
      (fun rest => (∀ more, rest ≠ .comma :: more) ∧ Ends rest) := by
  refine h.listed ?_ ?_ (fun hrest => hother _ hrest) hends
  · intro more
    rw [takenItem, hcomma]
    cases read more <;> rfl
  · intro all hall
    rw [takenItem, hother all hall]
    rfl

end Loops

/-! ## Parts behind a keyword -/

/-- A part behind a keyword. -/
theorem headed (h : Recognizes read tokens value Ends) (keyword : Keyword) :
    Recognizes (fun all => (after keyword all).bind read) (Headed.tokens tokens)
      (fun t : Headed keyword τ => value t.body) Ends where
  sound := by
    intro all x rest hread
    obtain ⟨more, hmore, hbody⟩ := Option.bind_eq_some_iff.1 hread
    obtain ⟨spelling, rfl⟩ := after_eq_some_iff.1 hmore
    obtain ⟨t, rfl, rfl⟩ := h.sound hbody
    exact ⟨⟨spelling, t⟩, rfl, rfl⟩
  complete t rest hrest := by
    rw [Headed.tokens, List.cons_append, after_eq_some_iff.2 ⟨t.keyword, rfl⟩]
    exact h.complete t.body hrest
  unique := by
    rintro ⟨⟨word, hword⟩, t⟩ ⟨⟨word', hword'⟩, t'⟩ rest rest' hrest hrest' heq
    obtain ⟨hhead, hbody⟩ := List.cons.inj heq
    cases hhead
    obtain ⟨rfl, hlast⟩ := h.unique hrest hrest' hbody
    exact ⟨rfl, hlast⟩

/-- A part behind a keyword, or another part, which does not begin with the keyword. -/
theorem choice (h : Recognizes read tokens value Ends) (keyword : Keyword)
    {read' : List Token → Option (α × List Token)} {tokens' : υ → List Token} {value' : υ → α}
    (h' : Recognizes read' tokens' value' Ends)
    (hnext : ∀ t {rest}, Ends rest → nextIs keyword (tokens' t ++ rest) = false) :
    Recognizes
      (fun all => match after keyword all with
        | some rest => read rest
        | none => read' all)
      (Sum.elim (Headed.tokens tokens) tokens')
      (Sum.elim (fun t : Headed keyword τ => value t.body) value') Ends where
  sound := by
    intro all x rest hread
    cases hafter : after keyword all with
    | some more =>
      rw [hafter] at hread
      obtain ⟨t, htokens, rfl⟩ := (h.headed keyword).sound (by rw [hafter]; exact hread)
      exact ⟨.inl t, htokens, rfl⟩
    | none =>
      rw [hafter] at hread
      obtain ⟨t, htokens, rfl⟩ := h'.sound hread
      exact ⟨.inr t, htokens, rfl⟩
  complete t rest hrest := by
    cases t with
    | inl t =>
      have hafter : after keyword (Headed.tokens tokens t ++ rest) = some (tokens t.body ++ rest) :=
        after_eq_some_iff.2 ⟨t.keyword, rfl⟩
      rw [Sum.elim_inl, hafter]
      exact h.complete t.body hrest
    | inr t =>
      rw [Sum.elim_inr, after_eq_none_iff.2 (hnext t hrest)]
      exact h'.complete t hrest
  unique := by
    have hnot : ∀ (t : Headed keyword τ) t' rest rest', Ends rest' →
        Headed.tokens tokens t ++ rest ≠ tokens' t' ++ rest' := by
      intro t t' rest rest' hrest' heq
      have hword : nextIs keyword (Headed.tokens tokens t ++ rest) = true := t.keyword.isWord
      rw [heq, hnext t' hrest'] at hword
      cases hword
    intro t t' rest rest' hrest hrest' heq
    cases t with
    | inl t =>
      cases t' with
      | inl t' =>
        obtain ⟨rfl, hlast⟩ := (h.headed keyword).unique hrest hrest' heq
        exact ⟨rfl, hlast⟩
      | inr t' => exact absurd heq (hnot t t' rest rest' hrest')
    | inr t =>
      cases t' with
      | inl t' => exact absurd heq.symm (hnot t' t rest' rest hrest)
      | inr t' =>
        obtain ⟨rfl, hlast⟩ := h'.unique hrest hrest' heq
        exact ⟨rfl, hlast⟩

/-- A part behind a keyword that may be missing. -/
theorem optional (h : Recognizes read tokens value Ends) {keyword : Keyword}
    {read' : List Token → Option (β × List Token)} {value' : Option (Headed keyword τ) → β}
    (say : α → β) (hsome : ∀ t, value' (some t) = say (value t.body))
    (hread : ∀ all, read' all = match after keyword all with
      | some rest => (read rest).bind fun p => some (say p.1, p.2)
      | none => some (value' none, all)) :
    Recognizes read' (optionalTokens (Headed.tokens tokens)) value'
      (fun rest => nextIs keyword rest = false ∧ Ends rest) := by
  have hpart := (h.map say).mono (fun rest => nextIs keyword rest = false ∧ Ends rest)
    fun hrest => hrest.2
  have hchoice := hpart.choice keyword ((nothing (value' none)).mono _ fun _ => trivial)
    fun _ _ hrest => hrest.1
  refine hchoice.image (Sum.elim some fun _ => none) (fun x => x) ?_ ?_ ?_ ?_
  · rintro (_ | t)
    · exact ⟨.inr (), rfl⟩
    · exact ⟨.inl t, rfl⟩
  · rintro (t | t) <;> rfl
  · rintro (t | t)
    · exact hsome t
    · rfl
  · intro all
    rw [hread]
    exact (Option.bind_fun_some _).symm

end Recognizes

end EntityQuery.Gql
