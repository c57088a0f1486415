import EntityQuery.Proofs.Gql.Conditions
import EntityQuery.Proofs.Gql.Meaning

/-!
# The language of the parser

The clauses of a statement may be missing and lists go on, so what a clause stands over
depends on what follows.  Each clause is followed by others that begin with keywords of their
own, so a statement as a whole is read in one way only.

* Clauses.  `recognizes_filter`, `recognizes_projection`, `recognizes_orders` and
  `recognizes_limit`.
* Statements.  `recognizes_statement` puts the clauses behind each other, and
  `readStatement_eq_ok_iff_derives` is the language of the parser.
-/

namespace EntityQuery.Gql

/-! ## Filters -/

theorem takenItem_nextCondition (all : List Token) :
    Recognizes.takenItem nextCondition all =
      match after .and all with
      | some rest => (outcome (readCondition rest)).bind fun p => some ((.and, p.1), p.2)
      | none =>
        match after .or all with
        | some rest => (outcome (readCondition rest)).bind fun p => some ((.or, p.1), p.2)
        | none => none := by
  have hjoin : ∀ (connector : Connector) (r : Option (Condition × List Token)),
      (r.bind fun p => some (some ((connector, p.1), p.2))).join =
        r.bind fun p => some ((connector, p.1), p.2) := by
    intro connector r
    cases r <;> rfl
  unfold after Recognizes.takenItem
  cases hand : eat .and all with
  | some rest =>
    rw [taken_nextCondition_and hand]
    exact hjoin ..
  | none =>
    cases hor : eat .or all with
    | some rest =>
      rw [taken_nextCondition_or hand hor]
      exact hjoin ..
    | none =>
      rw [taken_nextCondition_none hand hor]
      rfl

theorem recognizes_joined :
    Recognizes (Recognizes.takenItem nextCondition) JoinedTree.tokens JoinedTree.joined
      Anywhere := by
  have hrest := (recognizes_condition.map fun c => (Connector.or, c)).choice .or
    Recognizes.never fun t => t.elim
  have hchoice := (recognizes_condition.map fun c => (Connector.and, c)).choice .and hrest (by
    rintro (t | t) rest -
    · exact nextIs_headed (by decide) t _ rest
    · cases t)
  refine hchoice.image (Sum.elim .and (Sum.elim .or Empty.elim)) (fun x => x) ?_ ?_ ?_ ?_
  · rintro (t | t)
    · exact ⟨.inl t, rfl⟩
    · exact ⟨.inr (.inl t), rfl⟩
  · rintro (t | t | t)
    · rfl
    · rfl
    · cases t
  · rintro (t | t | t)
    · rfl
    · rfl
    · cases t
  · intro all
    rw [takenItem_nextCondition]
    exact (Option.bind_fun_some _).symm

/-- Where no condition follows. -/
def EndsFilter (rest : List Token) : Prop := nextIs .and rest = false ∧ nextIs .or rest = false

theorem recognizes_filterBody :
    Recognizes
      (fun all => (outcome (readCondition all)).bind fun p =>
        (outcome (repeated nextCondition p.2)).bind fun q =>
          some (groupConditions p.1 q.1, q.2))
      FilterTree.tokens FilterTree.groups fun rest => EndsFilter rest ∧ Anywhere rest := by
  have hstop : ∀ {rest}, EndsFilter rest → taken (nextCondition rest) = some none :=
    fun h => taken_nextCondition_none (eat_eq_none h.1) (eat_eq_none h.2)
  have hparts := recognizes_condition.seq
    (recognizes_joined.repeated hstop fun _ _ => trivial) fun _ _ _ => trivial
  refine hparts.image (fun t => ⟨t.1, t.2⟩) (fun x => groupConditions x.1 x.2)
    ?_ ?_ ?_ ?_
  · exact fun t => ⟨(t.first, t.others), rfl⟩
  · exact fun t => rfl
  · intro t
    have hgroups := groupConditions_map Prod.fst Prod.snd (Connector.and, t.1.condition)
      (t.2.map JoinedTree.joined)
    rw [List.map_id'] at hgroups
    exact hgroups.symm
  · intro all
    simp only [Option.bind_assoc, Option.bind_some]

theorem recognizes_filter :
    Recognizes (fun all => outcome (readFilter all))
      (optionalTokens (Headed.tokens FilterTree.tokens))
      (fun tree : Option (Headed .where FilterTree) => (tree.map (·.body.groups)).getD [])
      fun rest => nextIs .where rest = false ∧ EndsFilter rest ∧ Anywhere rest := by
  refine recognizes_filterBody.optional (fun x => x) (fun _ => rfl) fun all => ?_
  unfold after
  cases hwhere : eat .where all with
  | some rest =>
    rw [outcome_readFilter_some hwhere]
    exact (Option.bind_fun_some _).symm
  | none => exact outcome_readFilter_none hwhere

/-! ## Lists of fields -/

theorem recognizes_projection :
    Recognizes (fun all => outcome (readProjection all)) ProjectionTree.tokens
      ProjectionTree.fields fun rest => (∀ more, rest ≠ .comma :: more) ∧ Anywhere rest := by
  have hother : ∀ all, (∀ more, all ≠ .comma :: more) → taken (nextName all) = some none := by
    intro all hall
    unfold nextName
    split
    · next more => exact absurd rfl (hall more)
    · rfl
  have hnames := recognizes_name.commaSeparated (fun _ => taken_nextName _) hother
    fun _ => trivial
  have hread : ∀ all, (∀ more, all ≠ .star :: more) → outcome (readProjection all) =
      (outcome (readName all)).bind fun p =>
        (outcome (repeated nextName p.2)).bind fun q => some (p.1 :: q.1, q.2) := by
    intro all hall
    cases all with
    | nil => rfl
    | cons token rest => exact outcome_readProjection_names fun heq => hall rest (by rw [heq])
  have hname : ∀ (t : Listed NameTree) (rest more : List Token),
      t.tokens (fun name => [name.token]) ++ rest ≠ .star :: more := by
    rintro ⟨first, others⟩ rest more heq
    cases first <;> cases heq
  refine ⟨?_, ?_, ?_⟩
  · intro all x rest h
    by_cases hstar : ∃ more, all = .star :: more
    · obtain ⟨more, rfl⟩ := hstar
      cases h
      exact ⟨.star, rfl, rfl⟩
    · rw [hread all fun more heq => hstar ⟨more, heq⟩] at h
      obtain ⟨t, htokens, rfl⟩ := hnames.sound h
      exact ⟨.names t, htokens, rfl⟩
  · intro t rest hrest
    cases t with
    | star => rfl
    | names t => exact (hread _ (hname t rest)).trans (hnames.complete t hrest)
  · intro t t' rest rest' hrest hrest' heq
    cases t with
    | star =>
      cases t' with
      | star => exact ⟨rfl, (List.cons.inj heq).2⟩
      | names t' => exact absurd heq.symm (hname t' rest' rest)
    | names t =>
      cases t' with
      | star => exact absurd heq (hname t rest rest')
      | names t' =>
        obtain ⟨rfl, hlast⟩ := hnames.unique hrest hrest' heq
        exact ⟨rfl, hlast⟩

/-! ## Orders -/

/-- Where no direction follows. -/
def EndsDirection (rest : List Token) : Prop :=
  nextIs .desc rest = false ∧ nextIs .asc rest = false

theorem readDirection_eq (all : List Token) :
    some ((readDirection all).1, (readDirection all).2.1) =
      match after .desc all with
      | some rest => some (Direction.descending, rest)
      | none =>
        match after .asc all with
        | some rest => some (.ascending, rest)
        | none => some (.ascending, all) := by
  unfold readDirection after
  cases eat .desc all with
  | some rest => rfl
  | none => cases eat .asc all <;> rfl

theorem recognizes_direction :
    Recognizes (fun all => some ((readDirection all).1, (readDirection all).2.1))
      DirectionTree.tokens DirectionTree.direction EndsDirection := by
  have hmissing : Recognizes (fun all => some (Direction.ascending, all)) (fun _ : Unit => [])
      (fun _ => .ascending) EndsDirection :=
    (Recognizes.nothing Direction.ascending).mono _ fun _ => trivial
  have hdescending : Recognizes (fun all => some (Direction.descending, all)) (fun _ : Unit => [])
      (fun _ => .descending) EndsDirection :=
    (Recognizes.nothing Direction.descending).mono _ fun _ => trivial
  have hrest := hmissing.choice .asc hmissing fun _ _ hrest => hrest.2
  have hchoice := hdescending.choice .desc hrest (by
    rintro (t | t) rest hrest
    · exact nextIs_headed (by decide) t (fun _ => []) rest
    · exact hrest.1)
  refine hchoice.image
    (Sum.elim (fun t => .desc t.keyword)
      (Sum.elim (fun t => .asc t.keyword) fun _ => .missing))
    (fun x => x) ?_ ?_ ?_ ?_
  · rintro (_ | keyword | keyword)
    · exact ⟨.inr (.inr ()), rfl⟩
    · exact ⟨.inr (.inl ⟨keyword, ()⟩), rfl⟩
    · exact ⟨.inl ⟨keyword, ()⟩, rfl⟩
  · rintro (t | t | t) <;> rfl
  · rintro (t | t | t) <;> rfl
  · intro all
    rw [readDirection_eq]
    exact (Option.bind_fun_some _).symm

theorem recognizes_order :
    Recognizes (fun all => outcome (readOrder all)) OrderTree.tokens OrderTree.spec
      EndsDirection := by
  refine (recognizes_name.seq recognizes_direction fun _ _ _ => trivial).image
    (fun t => ⟨t.1, t.2⟩) (fun x => ⟨x.1, x.2⟩) ?_ ?_ ?_ ?_
  · exact fun t => ⟨(t.field, t.direction), rfl⟩
  · exact fun t => rfl
  · exact fun t => rfl
  · intro all
    rw [outcome_readOrder]
    simp only [Option.bind_assoc, Option.bind_some]

theorem remaining_expectKeyword_eq (total : Nat) (keyword : Keyword) (all : List Token) :
    remaining (expectKeyword total keyword all) = after keyword all := by
  unfold expectKeyword after
  cases eat keyword all with
  | some rest => rfl
  | none => cases all <;> rfl

/-- Where no field to sort by follows. -/
def EndsOrders (rest : List Token) : Prop :=
  (∀ more, rest ≠ .comma :: more) ∧ EndsDirection rest

theorem recognizes_orders (total : Nat) :
    Recognizes (fun all => outcome (readOrders total all))
      (optionalTokens (Headed.tokens (Headed.tokens (Listed.tokens OrderTree.tokens))))
      (fun tree : Option (Headed .order (Headed .by (Listed OrderTree))) =>
        (tree.map (·.body.body.values OrderTree.spec)).getD [])
      fun rest => nextIs .order rest = false ∧ EndsOrders rest := by
  have hother : ∀ all, (∀ more, all ≠ .comma :: more) → taken (nextOrder all) = some none := by
    intro all hall
    unfold nextOrder
    split
    · next more => exact absurd rfl (hall more)
    · rfl
  have hlist := recognizes_order.commaSeparated (fun _ => taken_nextOrder _) hother
    fun _ => ⟨rfl, rfl⟩
  refine (hlist.headed .by).optional (fun x => x) (fun _ => rfl) fun all => ?_
  unfold after
  cases horder : eat .order all with
  | some rest =>
    rw [outcome_readOrders_some total horder, remaining_expectKeyword_eq]
    exact (Option.bind_fun_some _).symm
  | none => exact outcome_readOrders_none total horder

/-! ## Counts -/

theorem recognizes_limit (keyword : Keyword) :
    Recognizes (fun all => outcome (readLimit keyword all))
      (optionalTokens (Headed.tokens fun count => [countToken count]))
      (fun tree : Option (Headed keyword UInt64) => tree.map (·.body))
      fun rest => nextIs keyword rest = false ∧ Anywhere rest := by
  refine recognizes_count.optional (some) (fun _ => rfl) fun all => ?_
  unfold after
  cases hkeyword : eat keyword all with
  | some rest => exact outcome_readLimit_some hkeyword
  | none => exact outcome_readLimit_none hkeyword

/-! ## Statements -/

theorem optional_ne_comma {keyword : Keyword} {τ : Type} (t : Option (Headed keyword τ))
    (part : τ → List Token) {rest : List Token} (hrest : ∀ more, rest ≠ .comma :: more)
    (more : List Token) : optionalTokens (Headed.tokens part) t ++ rest ≠ .comma :: more := by
  cases t with
  | none => exact hrest more
  | some t => nofun

/-- What the parser takes as a statement before it looks whether tokens are left. -/
def statementOutcome (total : Nat) (all : List Token) : Option (Statement × List Token) :=
  (after .select all).bind fun rest =>
    (outcome (readProjection rest)).bind fun (projection, rest) =>
      (after .from rest).bind fun rest =>
        (outcome (readName rest)).bind fun (kind, rest) =>
          (outcome (readFilter rest)).bind fun (groups, rest) =>
            (outcome (readOrders total rest)).bind fun (orders, rest) =>
              (outcome (readLimit .limit rest)).bind fun (limit, rest) =>
                (outcome (readLimit .offset rest)).bind fun (offset, rest) =>
                  some (⟨projection, kind, groups, orders, limit, offset⟩, rest)

theorem readStatement_eq_ok_iff {tokens : List Token} {s : Statement} :
    readStatement tokens = .ok s ↔ statementOutcome tokens.length tokens = some (s, []) := by
  have hread : (readStatement tokens).toOption =
      (statementOutcome tokens.length tokens).bind fun p =>
        if p.2.isEmpty then some p.1 else none := by
    rw [toOption_readStatement]
    simp only [statementOutcome, remaining_expectKeyword_eq, Option.bind_assoc, Option.bind_some]
  constructor
  · intro h
    rw [h] at hread
    obtain ⟨⟨found, rest⟩, hfound, hend⟩ := Option.bind_eq_some_iff.1 hread.symm
    cases rest with
    | nil =>
      cases hend
      exact hfound
    | cons => cases hend
  · intro h
    rw [h] at hread
    cases hstatement : readStatement tokens with
    | error e =>
      rw [hstatement] at hread
      cases hread
    | ok found =>
      rw [hstatement] at hread
      cases hread
      rfl

/-- A statement ends where all the tokens do: each clause is followed by the end or by a
clause that begins with another keyword. -/
theorem recognizes_statement (total : Nat) :
    Recognizes (statementOutcome total) StatementTree.tokens StatementTree.statement
      fun rest => rest = [] := by
  have hoffset := (recognizes_limit .offset).mono (fun rest => rest = []) (by
    rintro _ rfl
    exact ⟨rfl, trivial⟩)
  have hlimit := (recognizes_limit .limit).seq hoffset (by
    rintro offset _ rfl
    exact ⟨nextIs_optional (by decide) offset _ rfl, trivial⟩)
  have horders := (recognizes_orders total).seq hlimit (by
    rintro ⟨limit, offset⟩ _ rfl
    have hnext : ∀ keyword, keyword ≠ .limit → keyword ≠ .offset → nextIs keyword
        (optionalTokens (Headed.tokens fun count => [countToken count]) limit ++
          (optionalTokens (Headed.tokens fun count => [countToken count]) offset ++ [])) = false :=
      fun _ hlimit hoffset => nextIs_optional hlimit limit _ (nextIs_optional hoffset offset _ rfl)
    simp only [List.append_assoc]
    exact ⟨hnext .order (by decide) (by decide),
      optional_ne_comma limit _ (optional_ne_comma offset _ nofun),
      hnext .desc (by decide) (by decide), hnext .asc (by decide) (by decide)⟩)
  have hfilter := recognizes_filter.seq horders (by
    rintro ⟨orders, limit, offset⟩ _ rfl
    have hnext : ∀ keyword, keyword ≠ .order → keyword ≠ .limit → keyword ≠ .offset →
        nextIs keyword
          (optionalTokens (Headed.tokens (Headed.tokens (Listed.tokens OrderTree.tokens))) orders ++
            (optionalTokens (Headed.tokens fun count => [countToken count]) limit ++
              (optionalTokens (Headed.tokens fun count => [countToken count]) offset ++ []))) =
          false :=
      fun _ horder hlimit hoffset => nextIs_optional horder orders _
        (nextIs_optional hlimit limit _ (nextIs_optional hoffset offset _ rfl))
    simp only [List.append_assoc]
    exact ⟨hnext .where (by decide) (by decide) (by decide),
      ⟨hnext .and (by decide) (by decide) (by decide),
        hnext .or (by decide) (by decide) (by decide)⟩, trivial⟩)
  have hsource := (recognizes_name.headed .from).seq hfilter fun _ _ _ => trivial
  have hselect := (recognizes_projection.headed .select).seq hsource
    fun _ _ _ => ⟨nofun, trivial⟩
  refine hselect.image
    (fun (select, source, filter, orders, limit, offset) =>
      ⟨select, source, filter, orders, limit, offset⟩)
    (fun (projection, kind, groups, orders, limit, offset) =>
      ⟨projection, kind, groups, orders, limit, offset⟩) ?_ ?_ ?_ ?_
  · exact fun t => ⟨(t.select, t.source, t.filter, t.orders, t.limit, t.offset), rfl⟩
  · exact fun t => rfl
  · exact fun t => rfl
  · intro all
    simp only [statementOutcome, Option.bind_assoc, Option.bind_some]

/-- The parser accepts the tokens of the trees of the grammar and no others, what it gives back
is what the tree says, and no two trees stand over the same tokens. -/
theorem readStatement_eq_ok_iff_derives :
    (∀ tokens s, readStatement tokens = .ok s ↔
      ∃ tree : StatementTree, tree.tokens = tokens ∧ tree.statement = s) ∧
    ∀ tree other : StatementTree, tree.tokens = other.tokens → tree = other := by
  constructor
  · intro tokens s
    rw [readStatement_eq_ok_iff]
    constructor
    · intro h
      obtain ⟨tree, rfl, rfl⟩ := (recognizes_statement _).sound h
      exact ⟨tree, (List.append_nil _).symm, rfl⟩
    · rintro ⟨tree, rfl, rfl⟩
      have hread := (recognizes_statement tree.tokens.length).complete tree rfl
      rwa [List.append_nil] at hread
  · intro tree other heq
    exact ((recognizes_statement 0).unique rfl rfl (by rw [heq])).1

/-- Words that are keywords elsewhere are names where a name stands:
`select from from From where and = array(TRUE) or or >= null`. -/
theorem readStatement_keywords_as_names :
    readStatement [.word "select", .word "from", .word "from", .word "From", .word "where",
        .word "and", .operator .equal, .word "array", .openParen, .word "TRUE", .closeParen,
        .word "or", .word "or", .operator .atLeast, .word "null"] =
      .ok ⟨["from"], "From",
        [[⟨"and", .equal, .value (.array [.bool true])⟩], [⟨"or", .atLeast, .value .null⟩]],
        [], none, none⟩ :=
  (readStatement_eq_ok_iff_derives.1 _ _).2
    ⟨{ select := ⟨⟨"select", by decide⟩, .names ⟨.word "from", []⟩⟩
       source := ⟨⟨"from", by decide⟩, .word "From"⟩
       filter := some ⟨⟨"where", by decide⟩,
        { first := ⟨.word "and", .equal,
            .value (.array ⟨"array", by decide⟩ (.true ⟨"TRUE", by decide⟩) [])⟩
          others := [.or ⟨⟨"or", by decide⟩,
            ⟨.word "or", .atLeast, .value (.null ⟨"null", by decide⟩)⟩⟩] }⟩
       orders := none
       limit := none
       offset := none }, rfl, rfl⟩

end EntityQuery.Gql
