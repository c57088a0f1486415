import EntityQuery.Proofs.Gql.Values

/-!
# Conditions and their trees

Up to a condition no part of the grammar asks what follows it.

* Tokens.  `recognizes_name`, `recognizes_operator`, `recognizes_keyId` and
  `recognizes_count` are about one token each.
* Keys and timestamps.  `recognizes_path` and `recognizes_stamp`.
* Conditions.  `recognizes_operand` tells the operands apart by their keywords, and
  `recognizes_condition` is the whole comparison.
-/

namespace EntityQuery

namespace JsonNumber

theorem int64?_eq_some_iff {n : JsonNumber} {id : Int64} :
    n.int64? = some id ↔ n = .ofInt64 id := by
  constructor
  · intro h
    cases n with
    | float x => cases h
    | integer n =>
      rw [int64?] at h
      split at h
      · next hle =>
        cases h
        have hval : (Int64.ofInt n.val).toInt = n.val :=
          Int64.toInt_ofInt_of_le n.lower (by omega)
        obtain ⟨val, hlower, hupper⟩ := n
        simp only [ofInt64, hval]
      · cases h
  · rintro rfl
    exact int64?_ofInt64 id

theorem uint64?_eq_some_iff {n : JsonNumber} {count : UInt64} :
    n.uint64? = some count ↔ n = .ofUInt64 count := by
  constructor
  · intro h
    cases n with
    | float x => cases h
    | integer n =>
      obtain ⟨val, hlower, hupper⟩ := n
      rw [uint64?] at h
      split at h
      · next hle =>
        cases h
        have hval : ((UInt64.ofNat val.toNat).toNat : Int) = val := by
          have hpos : 0 ≤ val := hle
          rw [UInt64.toNat_ofNat_of_lt' (by simp [UInt64.size]; omega)]
          omega
        simp only [ofUInt64, hval]
      · cases h
  · rintro rfl
    simp [ofUInt64, uint64?]

end JsonNumber

namespace Gql

/-! ## Tokens -/

theorem recognizes_name :
    Recognizes (fun all => outcome (readName all)) (fun t => [t.token]) NameTree.name
      Anywhere := by
  refine .of_token ?_ rfl ?_
  · intro t t' heq
    cases t <;> cases t' <;> cases heq <;> rfl
  · intro found rest x last
    constructor
    · intro h
      cases found with
      | word s => cases h; exact ⟨rfl, .word s, rfl, rfl⟩
      | quoted s => cases h; exact ⟨rfl, .quoted s, rfl, rfl⟩
      | text | number | operator | comma | openParen | closeParen | star => cases h
    · rintro ⟨rfl, t, rfl, rfl⟩
      cases t <;> rfl

theorem recognizes_operator :
    Recognizes (fun all => outcome (readOperator all)) (fun op => [.operator op])
      (fun op => op) Anywhere := by
  refine .of_token (fun _ _ heq => Token.operator.inj heq) rfl ?_
  intro found rest x last
  constructor
  · intro h
    cases found with
    | operator op => cases h; exact ⟨rfl, op, rfl, rfl⟩
    | word | quoted | text | number | comma | openParen | closeParen | star => cases h
  · rintro ⟨rfl, op, rfl, rfl⟩
    rfl

theorem recognizes_keyId :
    Recognizes (fun all => outcome (readKeyId all)) (fun id => [ElementTree.idToken id])
      (fun id => id) Anywhere := by
  have hnumber : ∀ id rest, outcome (readKeyId (.number (.ofInt64 id) :: rest)) =
      some (.number id, rest) := by
    intro id rest
    rw [readKeyId, JsonNumber.int64?_ofInt64]
    rfl
  refine .of_token ?_ rfl ?_
  · intro id id' heq
    cases id with
    | number n =>
      cases id' with
      | number n' =>
        have hn := JsonNumber.int64?_eq_some_iff.2 (Token.number.inj heq)
        rw [JsonNumber.int64?_ofInt64] at hn
        cases hn
        rfl
      | name => cases heq
    | name =>
      cases id' with
      | number => cases heq
      | name => cases heq; rfl
  · intro found rest x last
    constructor
    · intro h
      cases found with
      | number n =>
        cases hn : n.int64? with
        | none =>
          simp only [readKeyId, hn] at h
          cases h
        | some id =>
          rw [JsonNumber.int64?_eq_some_iff.1 hn, hnumber] at h
          cases h
          exact ⟨rfl, .number id, by rw [JsonNumber.int64?_eq_some_iff.1 hn]; rfl, rfl⟩
      | text s => cases h; exact ⟨rfl, .name s, rfl, rfl⟩
      | word | quoted | operator | comma | openParen | closeParen | star => cases h
    · rintro ⟨rfl, id, rfl, hx⟩
      rw [hx]
      cases id with
      | number id => exact hnumber id _
      | name s => rfl

theorem recognizes_count :
    Recognizes (fun all => outcome (readCount all)) (fun count => [countToken count])
      (fun count => count) Anywhere := by
  have hnumber : ∀ count rest, outcome (readCount (.number (.ofUInt64 count) :: rest)) =
      some (count, rest) := by
    intro count rest
    rw [readCount, JsonNumber.uint64?_eq_some_iff.2 rfl]
    rfl
  refine .of_token ?_ rfl ?_
  · intro count count' heq
    have hcount := JsonNumber.uint64?_eq_some_iff.2 (Token.number.inj heq)
    rw [JsonNumber.uint64?_eq_some_iff.2 rfl] at hcount
    exact Option.some.inj hcount
  · intro found rest x last
    constructor
    · intro h
      cases found with
      | number n =>
        cases hn : n.uint64? with
        | none =>
          simp only [readCount, hn] at h
          cases h
        | some count =>
          rw [JsonNumber.uint64?_eq_some_iff.1 hn, hnumber] at h
          cases h
          exact ⟨rfl, _, by rw [JsonNumber.uint64?_eq_some_iff.1 hn]; rfl, rfl⟩
      | text | word | quoted | operator | comma | openParen | closeParen | star => cases h
    · rintro ⟨rfl, count, rfl, hx⟩
      rw [hx]
      exact hnumber count _

theorem recognizes_token (token : Token) :
    Recognizes (fun all => (remaining (expect token all)).bind fun rest => some ((), rest))
      (fun _ : Unit => [token]) (fun _ => ()) Anywhere where
  sound := by
    intro all x rest h
    obtain ⟨more, hmore, heq⟩ := Option.bind_eq_some_iff.1 h
    cases heq
    cases all with
    | nil => cases hmore
    | cons found tail =>
      rw [expect] at hmore
      split at hmore
      · next hfound =>
        cases hmore
        exact ⟨(), by rw [hfound]; rfl, rfl⟩
      · cases hmore
  complete t rest _ := by
    rw [List.cons_append, List.nil_append, remaining_expect]
    rfl
  unique _ _ heq := ⟨rfl, (List.cons.inj heq).2⟩

theorem recognizes_stampText :
    Recognizes (fun all => outcome (readStampText all)) (fun s => [.text s])
      (fun s => s) Anywhere := by
  refine .of_token (fun _ _ heq => Token.text.inj heq) rfl ?_
  intro found rest x last
  constructor
  · intro h
    cases found with
    | text s => cases h; exact ⟨rfl, s, rfl, rfl⟩
    | word | quoted | operator | number | comma | openParen | closeParen | star => cases h
  · rintro ⟨rfl, s, rfl, hx⟩
    rw [hx]
    rfl

/-! ## Keys and timestamps -/

theorem recognizes_element :
    Recognizes (fun all => outcome (readElement all)) ElementTree.tokens ElementTree.element
      Anywhere := by
  have hparts := (recognizes_name.seq (recognizes_token .comma) fun _ _ _ => trivial).seq
    recognizes_keyId fun _ _ _ => trivial
  refine hparts.image (fun t => ⟨t.1.1, t.2⟩) (fun x => (x.1.1, x.2)) ?_ ?_ ?_ ?_
  · exact fun t => ⟨((t.kind, ()), t.id), rfl⟩
  · exact fun t => rfl
  · exact fun t => rfl
  · intro all
    rw [outcome_readElement]
    simp only [Option.bind_assoc, Option.bind_some]

theorem taken_nextElement {all : List Token} (h : ∀ more, all ≠ .closeParen :: more) :
    taken (nextElement all) =
      (remaining (expect .comma all)).bind fun rest =>
        (outcome (readElement rest)).bind fun p => some (some p) := by
  unfold nextElement
  split
  · next more => exact absurd rfl (h more)
  · refine map_toOption_bind fun ⟨rest, hcomma⟩ => ?_
    exact map_toOption_bind fun ⟨_, _, _⟩ => rfl

theorem recognizes_path :
    Recognizes (fun all => outcome (readPath all))
      (fun t => parenthesized (t.tokens ElementTree.tokens)) (Listed.values ElementTree.element)
      Anywhere := by
  have hcomma : ∀ more, Recognizes.takenItem nextElement (.comma :: more) =
      outcome (readElement more) := by
    intro more
    rw [Recognizes.takenItem, taken_nextElement (fun _ heq => by cases heq), remaining_expect,
      Option.bind_some]
    cases outcome (readElement more) <;> rfl
  have hother : ∀ all, (∀ more, all ≠ .comma :: more) →
      Recognizes.takenItem nextElement all = none := by
    intro all hall
    by_cases hclose : ∃ more, all = .closeParen :: more
    · obtain ⟨more, rfl⟩ := hclose
      rfl
    · have hexpect : remaining (expect .comma all) = none := by
        cases all with
        | nil => rfl
        | cons token more =>
          have htoken : token ≠ .comma := fun heq => hall more (by rw [heq])
          rw [expect, if_neg htoken]
          rfl
      rw [Recognizes.takenItem, taken_nextElement fun more heq => hclose ⟨more, heq⟩, hexpect]
      rfl
  have hstop : ∀ {rest}, (∃ more, rest = .closeParen :: more) →
      taken (nextElement rest) = some none := by
    rintro rest ⟨more, rfl⟩
    rfl
  have hlist := recognizes_element.listed hcomma hother hstop fun _ => trivial
  have hparts := ((recognizes_token .openParen).seq hlist fun _ _ _ => trivial).seq
    (recognizes_token .closeParen) fun _ more _ => ⟨⟨more, rfl⟩, trivial⟩
  refine hparts.image (fun t => t.1.2) (fun x => x.1.2) ?_ ?_ ?_ ?_
  · exact fun t => ⟨(((), t), ()), rfl⟩
  · exact fun t => rfl
  · exact fun t => rfl
  · intro all
    rw [outcome_readPath]
    simp only [Option.bind_assoc, Option.bind_some]

/-- A timestamp is the text in parentheses, if the text is one. -/
theorem recognizes_stamp :
    Recognizes (fun all => outcome (readStamp all)) (fun t => parenthesized [.text t.text])
      StampTree.instant Anywhere := by
  have htext : Recognizes
      (fun all => (remaining (expect .openParen all)).bind fun rest =>
        (outcome (readStampText rest)).bind fun p =>
          (remaining (expect .closeParen p.2)).bind fun rest => some (p.1, rest))
      (fun s => parenthesized [.text s]) (fun s => s) Anywhere := by
    have hparts := ((recognizes_token .openParen).seq recognizes_stampText
      fun _ _ _ => trivial).seq (recognizes_token .closeParen) fun _ _ _ => trivial
    refine hparts.image (fun t => t.1.2) (fun x => x.1.2) ?_ ?_ ?_ ?_
    · exact fun s => ⟨(((), s), ()), rfl⟩
    · exact fun _ => rfl
    · exact fun _ => rfl
    · intro all
      simp only [Option.bind_assoc, Option.bind_some]
  have hread : ∀ all, outcome (readStamp all) =
      ((remaining (expect .openParen all)).bind fun rest =>
        (outcome (readStampText rest)).bind fun p =>
          (remaining (expect .closeParen p.2)).bind fun rest => some (p.1, rest)).bind fun p =>
            (Instant.read? p.1.toList).map (·, p.2) := by
    intro all
    rw [outcome_readStamp]
    simp only [Option.bind_assoc, Option.bind_some]
  refine .of_injective ?_ ?_ ?_
  · intro all t rest h
    rw [hread] at h
    obtain ⟨⟨s, last⟩, hs, h⟩ := Option.bind_eq_some_iff.1 h
    obtain ⟨instant, hinstant, heq⟩ := Option.map_eq_some_iff.1 h
    cases heq
    obtain ⟨s, rfl, rfl⟩ := htext.sound hs
    exact ⟨⟨s, t, hinstant⟩, rfl, rfl⟩
  · intro t rest _
    rw [hread, htext.complete t.text trivial, Option.bind_some, t.isInstant]
    rfl
  · rintro ⟨s, t, hs⟩ ⟨s', t', hs'⟩ htokens hvalue
    cases htokens
    cases hvalue
    rfl

/-! ## Conditions -/

theorem nextIs_value {keyword : Keyword} (h : keyword ∉ [Keyword.array, .true, .false, .null])
    (t : ValueTree) (rest : List Token) : nextIs keyword (t.tokens ++ rest) = false := by
  simp only [List.mem_cons, List.not_mem_nil, or_false, not_or] at h
  obtain ⟨harray, htrue, hfalse, hnull⟩ := h
  cases t with
  | text | number => rfl
  | true s => exact s.isWord_eq_false htrue
  | false s => exact s.isWord_eq_false hfalse
  | null s => exact s.isWord_eq_false hnull
  | emptyArray s => exact s.isWord_eq_false harray
  | array s => exact s.isWord_eq_false harray

theorem outcome_readOperand_eq (all : List Token) :
    outcome (readOperand all) =
      match after .key all with
      | some rest => (outcome (readPath rest)).bind fun p => some (.key p.1, p.2)
      | none =>
        match after .datetime all with
        | some rest => (outcome (readStamp rest)).bind fun p => some (.timestamp p.1, p.2)
        | none => (outcome (readValue all)).bind fun p => some (.value p.1, p.2) := by
  unfold after
  cases hkey : eat .key all with
  | some rest => exact outcome_readOperand_key hkey
  | none =>
    cases hdatetime : eat .datetime all with
    | some rest => exact outcome_readOperand_timestamp hkey hdatetime
    | none => exact outcome_readOperand_value hkey hdatetime

theorem recognizes_operand :
    Recognizes (fun all => outcome (readOperand all)) OperandTree.tokens OperandTree.operand
      Anywhere := by
  have hrest := (recognizes_stamp.map Operand.timestamp).choice .datetime
    (recognizes_value.map Operand.value) fun t _ _ => nextIs_value (by decide) t _
  have hchoice := (recognizes_path.map Operand.key).choice .key hrest (by
    rintro (t | t) rest -
    · exact nextIs_headed (by decide) t (fun t => parenthesized [.text t.text]) rest
    · exact nextIs_value (by decide) t rest)
  refine hchoice.image (Sum.elim .key (Sum.elim .datetime .value)) (fun x => x)
    ?_ ?_ ?_ ?_
  · rintro (t | t | t)
    · exact ⟨.inl t, rfl⟩
    · exact ⟨.inr (.inl t), rfl⟩
    · exact ⟨.inr (.inr t), rfl⟩
  · rintro (t | t | t) <;> rfl
  · rintro (t | t | t) <;> rfl
  · intro all
    rw [outcome_readOperand_eq]
    exact (Option.bind_fun_some _).symm

theorem recognizes_condition :
    Recognizes (fun all => outcome (readCondition all)) ConditionTree.tokens
      ConditionTree.condition Anywhere := by
  have hparts := (recognizes_name.seq recognizes_operator fun _ _ _ => trivial).seq
    recognizes_operand fun _ _ _ => trivial
  refine hparts.image (fun t => ⟨t.1.1, t.1.2, t.2⟩)
    (fun x => ⟨x.1.1, x.1.2, x.2⟩) ?_ ?_ ?_ ?_
  · exact fun t => ⟨((t.field, t.op), t.operand), rfl⟩
  · exact fun t => rfl
  · exact fun t => rfl
  · intro all
    rw [outcome_readCondition]
    simp only [Option.bind_assoc, Option.bind_some]

end Gql

end EntityQuery
