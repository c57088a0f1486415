import EntityQuery.Journal.Line
import EntityQuery.Json.Source
import EntityQuery.Proofs.Json.ReadBack
import EntityQuery.Proofs.Store.ResultOrder

/-!
# Journal lines are JSON objects

A line is one line of text and one JSON object of strings, whatever characters stand in the name
of the event and in its fields.

* Strings.  `Line.writes_escapeChar` says that an escaped character is read as itself.
* Lexemes.  `Line.lexemes?_line` cuts a line into the lexemes of its members.
* Objects.  `Line.source_write` reads these as the object of the members, in their order.
* Order.  `Line.inKeyOrder_eq_iff_perm` says when fields are in the same order by their keys.
* The result.  `Line.write_isObject` puts the parts together, and says when two lines are the same.
-/

namespace EntityQuery

namespace Line

open EntityQuery.Text Json

/-! ## Strings -/

theorem isControl_digitChar : ∀ d < 16, isControl (Nat.digitChar d) = false := by decide

theorem toNat_lt_of_isControl {c : Char} (h : isControl c = true) : c.toNat < 256 := by
  simp only [isControl, Bool.or_eq_true, Bool.and_eq_true, decide_eq_true_eq] at h
  omega

/-- How a character is escaped: by a letter, by its number, or not at all. -/
theorem escapeChar_cases (c : Char) :
    (∃ e, escapeChar c = ['\\', e] ∧ e ≠ 'u' ∧ unescape? e = some c ∧ isControl e = false) ∨
      (c.toNat < 256 ∧ escapeChar c =
        ['\\', 'u', '0', '0', Nat.digitChar (c.toNat / 16), Nat.digitChar (c.toNat % 16)]) ∨
      (escapeChar c = [c] ∧ isControl c = false ∧ c ≠ '"' ∧ c ≠ '\\') := by
  unfold escapeChar
  split
  · exact .inl ⟨'"', rfl, by decide, rfl, by decide⟩
  · exact .inl ⟨'\\', rfl, by decide, rfl, by decide⟩
  · exact .inl ⟨'n', rfl, by decide, rfl, by decide⟩
  · exact .inl ⟨'r', rfl, by decide, rfl, by decide⟩
  · exact .inl ⟨'t', rfl, by decide, rfl, by decide⟩
  · next hquote hslash _ _ _ =>
    split
    · next hcontrol =>
      have hsmall := toNat_lt_of_isControl hcontrol
      refine .inr (.inl ⟨hsmall, ?_⟩)
      show '\\' :: 'u' :: (List.replicate _ '0' ++ _) = _
      rw [padded_hexDigits hsmall]
    · next hcontrol => exact .inr (.inr ⟨rfl, Bool.eq_false_iff.2 hcontrol, hquote, hslash⟩)

/-- No character that a string is written with is a control character. -/
theorem isControl_of_mem_escapeChar {c x : Char} (h : x ∈ escapeChar c) : isControl x = false := by
  rcases escapeChar_cases c with ⟨e, heq, -, -, he⟩ | ⟨hsmall, heq⟩ | ⟨heq, hc, -⟩
  · rw [heq] at h
    rcases List.mem_cons.1 h with rfl | h
    · decide
    · rw [List.mem_singleton.1 h, he]
  · have hdigit : ∀ d < 16, isControl (Nat.digitChar d) = false := isControl_digitChar
    rw [heq] at h
    simp only [List.mem_cons, List.not_mem_nil, or_false] at h
    rcases h with rfl | rfl | rfl | rfl | rfl | rfl
    · decide
    · decide
    · decide
    · decide
    · exact hdigit _ (by omega)
    · exact hdigit _ (by omega)
  · rw [heq] at h
    rw [List.mem_singleton.1 h, hc]

/-- However a character is escaped, it is read as itself. -/
theorem writes_escapeChar (c : Char) : Writes (escapeChar c) c := by
  rcases escapeChar_cases c with
    ⟨e, heq, hu, he, -⟩ | ⟨hsmall, heq⟩ | ⟨heq, hcontrol, hquote, hslash⟩
  · exact heq ▸ .letter hu he
  · exact heq ▸ .number hsmall
  · have hlarge : 0x20 ≤ c.toNat := by
      simp only [isControl, Bool.or_eq_false_iff, decide_eq_false_iff_not] at hcontrol
      omega
    exact heq ▸ .plain hlarge hquote hslash

/-! ## Lexemes -/

theorem lexemes?_stringChars (s : String) (rest : List Char) :
    lexemes? (stringChars s ++ rest) = (lexemes? rest).map (.string (some s) :: ·) := by
  have hchars : stringChars s ++ rest = '"' :: (s.toList.flatMap escapeChar ++ '"' :: rest) := by
    simp [stringChars]
  rw [hchars, lexemes?_string writes_escapeChar]

/-- The lexemes of a member of the object behind a comma. -/
def memberLexemes (member : String × String) : List Lexeme :=
  [.comma, .string (some member.1), .colon, .string (some member.2)]

/-- The members of a line that are not its first, with what follows them. -/
theorem lexemes?_members (members : List (String × String)) (rest : List Char) :
    lexemes? (members.flatMap memberChars ++ rest) =
      (lexemes? rest).map (members.flatMap memberLexemes ++ ·) := by
  induction members with
  | nil => exact Option.map_id'.symm
  | cons member members ih =>
    have hchars : (member :: members).flatMap memberChars ++ rest =
        ',' :: (stringChars member.1 ++ ':' :: (stringChars member.2 ++
          (members.flatMap memberChars ++ rest))) := by
      simp [memberChars]
    rw [hchars, lexemes?_cons (by decide) rfl, lexemes?_stringChars,
      lexemes?_cons (c := ':') (by decide) rfl, lexemes?_stringChars, ih]
    simp only [Option.map_map]
    rfl

/-- The members of a line behind the first. -/
def otherMembers (severity : Severity) (fields : EventFields) : List (String × String) :=
  ("severity", severity.text) :: inKeyOrder fields

/-- A line is cut into the lexemes of an object. -/
theorem lexemes?_line (event : String) (severity : Severity) (fields : EventFields) :
    lexemes? (chars event severity fields ++ ['\x0A']) =
      some (.openObject :: .string (some "event") :: .colon :: .string (some event) ::
        ((otherMembers severity fields).flatMap memberLexemes ++ [.closeObject])) := by
  have hchars : chars event severity fields ++ ['\x0A'] =
      '{' :: (stringChars "event" ++ ':' :: (stringChars event ++
        ((otherMembers severity fields).flatMap memberChars ++ ['}', '\x0A']))) := by
    simp [chars, otherMembers]
  have hend : lexemes? ['}', '\x0A'] = some [.closeObject] := by
    have hbreak : lexemes? ['\x0A'] = some [] := by
      rw [lexemes?, if_pos (by decide), lexemes?_nil]
    have hclose : lexemes? ['}', '\x0A'] = (lexemes? ['\x0A']).map (.closeObject :: ·) :=
      lexemes?_cons (by decide) rfl
    rw [hclose, hbreak]
    rfl
  rw [hchars, lexemes?_cons (by decide) rfl, lexemes?_stringChars,
    lexemes?_cons (c := ':') (by decide) rfl, lexemes?_stringChars, lexemes?_members, hend]
  rfl

/-! ## Objects -/

/-- A member of an object of strings, as it is written. -/
def sourceMember (member : String × String) : Option String × Source :=
  (some member.1, .string (some member.2))

/-- A member of an object of strings, as a value. -/
def valueMember (member : String × String) : String × Json := (member.1, .string member.2)

theorem flatMap_memberLexemes (members : List (String × String)) :
    members.flatMap memberLexemes = Json.memberLexemes (members.map valueMember) := by
  induction members with
  | nil => rfl
  | cons member members ih =>
    rw [List.flatMap_cons, ih]
    rfl

theorem writtenMembers_map (members : List (String × String)) :
    writtenMembers (members.map valueMember) = members.map sourceMember := by
  induction members with
  | nil => rfl
  | cons member members ih =>
    rw [List.map_cons, List.map_cons, ← ih]
    rfl

/-- The members of a line in their order. -/
def members (event : String) (severity : Severity) (fields : EventFields) :
    List (String × String) :=
  ("event", event) :: otherMembers severity fields

/-- A line is read as the object of its members, in their order. -/
theorem source_write (event : String) (severity : Severity) (fields : EventFields) :
    Source.read? (write event severity fields) =
      some (.object ((members event severity fields).map sourceMember)) := by
  rw [Source.read?, write, String.toList_ofList, lexemes?_line, Option.bind_some, Source.start?,
    Source.start?, flatMap_memberLexemes, finish?_memberLexemes, writtenMembers_map]
  rfl

theorem membersToJson?_map (depth : Nat) (members : List (String × String)) :
    Source.membersToJson? depth (members.map sourceMember) = some (members.map valueMember) := by
  induction members with
  | nil => rfl
  | cons member members ih =>
    have hvalue : Source.toJson? depth (.string (some member.2)) = some (.string member.2) := rfl
    rw [List.map_cons, sourceMember]
    simp only [Source.membersToJson?, hvalue, ih]
    rfl

/-- A line is read as the value with its members. -/
theorem read?_write (event : String) (severity : Severity) (fields : EventFields) :
    Json.read? (write event severity fields) =
      some (.ofMembers ((members event severity fields).map valueMember)) := by
  rw [Json.read?, source_write, Option.bind_some, Source.toJson?, if_neg (by decide),
    membersToJson?_map]
  rfl

/-! ## Order -/

/-- All names in a line are different. -/
def HasDistinctNames (fields : EventFields) : Prop :=
  ("event" :: "severity" :: fields.map Prod.fst).Nodup

instance (fields : EventFields) : Decidable (HasDistinctNames fields) :=
  inferInstanceAs (Decidable (List.Nodup _))

theorem HasDistinctNames.keys {fields : EventFields} (h : HasDistinctNames fields) :
    (fields.map Prod.fst).Nodup :=
  (List.nodup_cons.1 (List.nodup_cons.1 h).2).2

theorem inKeyOrder_perm (fields : EventFields) : (inKeyOrder fields).Perm fields :=
  List.mergeSort_perm ..

theorem inKeyOrder_ascending {fields : EventFields} (h : (fields.map Prod.fst).Nodup) :
    Ascending (inKeyOrder fields) := by
  have hview : Std.TransCmp fun a b : String × String => TotalOrder.order a.1 b.1 :=
    TotalOrder.transCmp_view Prod.fst
  have hsorted : (inKeyOrder fields).Pairwise fun a b =>
      (TotalOrder.order a.1 b.1 != .gt) = true :=
    List.pairwise_mergeSort bne_gt_trans bne_gt_total fields
  have hdistinct : (inKeyOrder fields).Pairwise fun a b => a.1 ≠ b.1 := by
    rw [← List.pairwise_map]
    exact ((inKeyOrder_perm fields).map Prod.fst).nodup_iff.2 h
  refine (hsorted.and hdistinct).imp ?_
  rintro a b ⟨hle, hne⟩
  cases horder : TotalOrder.order a.1 b.1 with
  | lt => rfl
  | eq => exact absurd (TotalOrder.order_eq_iff.1 horder) hne
  | gt => rw [horder] at hle; cases hle

/-- Fields of different keys are in one order by their keys, in whatever order they were given. -/
theorem inKeyOrder_eq_iff_perm {fields others : EventFields} (h : (fields.map Prod.fst).Nodup)
    (hothers : (others.map Prod.fst).Nodup) :
    inKeyOrder fields = inKeyOrder others ↔ fields.Perm others := by
  constructor
  · intro heq
    exact (inKeyOrder_perm fields).symm.trans (heq ▸ inKeyOrder_perm others)
  · intro hperm
    refine (inKeyOrder_ascending h).eq_of_mem_iff (inKeyOrder_ascending hothers) ?_
    intro entry
    rw [(inKeyOrder_perm fields).mem_iff, (inKeyOrder_perm others).mem_iff, hperm.mem_iff]

theorem severity_text_injective {severity other : Severity} (h : severity.text = other.text) :
    severity = other := by
  revert h
  cases severity <;> cases other <;> decide

/-- Lines have the same members only if they are about the same event. -/
theorem eq_of_members_eq {event other : String} {severity otherSeverity : Severity}
    {fields others : EventFields}
    (h : members event severity fields = members other otherSeverity others) :
    event = other ∧ severity = otherSeverity ∧ inKeyOrder fields = inKeyOrder others := by
  obtain ⟨hevent, hrest⟩ := List.cons.inj h
  obtain ⟨hseverity, hfields⟩ := List.cons.inj hrest
  exact ⟨(Prod.mk.inj hevent).2, severity_text_injective (Prod.mk.inj hseverity).2, hfields⟩

theorem sourceMember_injective : Function.Injective sourceMember := by
  rintro ⟨name, s⟩ ⟨other, t⟩ h
  simp only [sourceMember, Prod.mk.injEq, Option.some.injEq, Source.string.injEq] at h
  exact Prod.ext h.1 h.2

/-! ## Characters -/

theorem isControl_of_mem_string {s : String} {x : Char} (h : x ∈ stringChars s) :
    isControl x = false := by
  rw [stringChars, List.cons_append, List.mem_cons, List.mem_append, List.mem_flatMap,
    List.mem_singleton] at h
  rcases h with rfl | ⟨c, -, h⟩ | rfl
  · decide
  · exact isControl_of_mem_escapeChar h
  · decide

theorem isControl_of_mem_member {member : String × String} {x : Char}
    (h : x ∈ memberChars member) : isControl x = false := by
  rw [memberChars, List.cons_append, List.mem_cons, List.mem_append, List.mem_cons] at h
  rcases h with rfl | h | rfl | h
  · decide
  · exact isControl_of_mem_string h
  · decide
  · exact isControl_of_mem_string h

/-- No character of a line but its end is a control character. -/
theorem isControl_of_mem_chars {event : String} {severity : Severity} {fields : EventFields}
    {x : Char} (h : x ∈ chars event severity fields) : isControl x = false := by
  have hchars : chars event severity fields = '{' :: (stringChars "event" ++
      ':' :: (stringChars event ++ ((otherMembers severity fields).flatMap memberChars ++
        ['}']))) := by
    simp [chars, otherMembers]
  rw [hchars] at h
  simp only [List.mem_cons, List.mem_append, List.mem_flatMap, List.not_mem_nil, or_false] at h
  rcases h with rfl | h | rfl | h | ⟨member, -, h⟩ | rfl
  · decide
  · exact isControl_of_mem_string h
  · decide
  · exact isControl_of_mem_string h
  · exact isControl_of_mem_member h
  · decide

/-! ## The result -/

/-- What the line of an event is: one line of text, and one JSON object. -/
structure IsObject (event : String) (severity : Severity) (fields : EventFields) (line : String) :
    Prop where
  /-- There is a line break at the end, and no other control character. -/
  one_line : ∃ body, line.toList = body ++ ['\x0A'] ∧ ∀ c ∈ body, isControl c = false
  /-- The members are written in this order: the event, the severity, and the fields by their
  keys, each with the string that was given. -/
  source_eq : ∃ sorted, sorted.Perm fields ∧ Ascending sorted ∧
    Source.read? line = some (.object
      ((("event", event) :: ("severity", severity.text) :: sorted).map fun (name, s) =>
        (some name, .string (some s))))
  /-- The object has these members and no others. -/
  value_eq : ∃ object, Json.read? line = some (.object object) ∧
    ∀ name v, findEntry name object = some v ↔
      ∃ s, v = .string s ∧
        (name, s) ∈ ("event", event) :: ("severity", severity.text) :: fields

theorem isObject_write (event : String) (severity : Severity) {fields : EventFields}
    (h : HasDistinctNames fields) :
    IsObject event severity fields (write event severity fields) := by
  refine ⟨⟨_, String.toList_ofList, fun c hc => isControl_of_mem_chars hc⟩,
    ⟨_, inKeyOrder_perm fields, inKeyOrder_ascending h.keys, source_write ..⟩,
    ⟨_, read?_write .., fun name v => ?_⟩⟩
  have hmembers : (members event severity fields).Perm
      (("event", event) :: ("severity", severity.text) :: fields) :=
    ((inKeyOrder_perm fields).cons _).cons _
  have hdistinct : (((members event severity fields).map valueMember).map Prod.fst).Nodup := by
    rw [List.map_map]
    exact (hmembers.map Prod.fst).nodup_iff.2 h
  rw [findEntry_inOrder hdistinct, List.mem_map]
  constructor
  · rintro ⟨member, hmem, heq⟩
    cases heq
    exact ⟨member.2, rfl, hmembers.mem_iff.1 hmem⟩
  · rintro ⟨s, rfl, hmem⟩
    exact ⟨_, hmembers.mem_iff.2 hmem, rfl⟩

/-- The line of an event is one line of text and one JSON object, and it tells the event, the
severity and the fields, of which the order alone is lost. -/
theorem write_isObject (event : String) (severity : Severity) {fields : EventFields}
    (h : HasDistinctNames fields) :
    IsObject event severity fields (write event severity fields) ∧
      ∀ other otherSeverity others, HasDistinctNames others →
        (write event severity fields = write other otherSeverity others ↔
          event = other ∧ severity = otherSeverity ∧ fields.Perm others) := by
  refine ⟨isObject_write event severity h, fun other otherSeverity others hothers => ?_⟩
  have hfields := inKeyOrder_eq_iff_perm h.keys hothers.keys
  constructor
  · intro heq
    have hsource := source_write event severity fields
    rw [heq, source_write, Option.some.injEq, Source.object.injEq] at hsource
    obtain ⟨hevent, hseverity, hsorted⟩ :=
      eq_of_members_eq (List.map_injective_iff.2 sourceMember_injective hsource).symm
    exact ⟨hevent, hseverity, hfields.1 hsorted⟩
  · rintro ⟨rfl, rfl, hperm⟩
    rw [write, write, chars, chars, hfields.2 hperm]

/-- Fields that would end their strings, the object or the line if they were not escaped. -/
def forgingFields : EventFields :=
  [("z\"", "1\x0A\x7d"), ("a\x00", "\\\",\"event\":\"\x7F")]

/-- Nothing is forged, and the order in which the fields are given does not show. -/
theorem write_isObject_forging :
    HasDistinctNames forgingFields ∧
      IsObject "line\x0D\x0Abreak" .warn forgingFields
        (write "line\x0D\x0Abreak" .warn forgingFields) ∧
      write "line\x0D\x0Abreak" .warn forgingFields =
        write "line\x0D\x0Abreak" .warn forgingFields.reverse := by
  have hnames : HasDistinctNames forgingFields := by decide
  have hreverse : HasDistinctNames forgingFields.reverse := by decide
  obtain ⟨hobject, hsame⟩ := write_isObject "line\x0D\x0Abreak" .warn hnames
  refine ⟨hnames, hobject, (hsame _ _ _ hreverse).2 ⟨rfl, rfl, ?_⟩⟩
  exact (List.reverse_perm _).symm

end Line

end EntityQuery
