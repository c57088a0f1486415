import EntityQuery.Json.Source

/-!
# The size of a value that is read

A value that is read has no more parts than its text has characters.

* Lexemes.  `length_lexemes?`: no lexeme is made of nothing.
* Sources.  `Source.size_start?`: the reader makes no more parts than it is given lexemes.
* Values.  `Source.size_toJson?`: a value has the parts of its source, or fewer where a member is
  repeated.
* The result.  `size_le_of_read?`.
-/

namespace EntityQuery.Json

/-! ## Lexemes -/

theorem length_lexemes? {cs : List Char} {lexemes : List Lexeme}
    (h : lexemes? cs = some lexemes) : lexemes.length ≤ cs.length := by
  fun_induction lexemes? cs generalizing lexemes with
  | case1 =>
    cases h
    exact Nat.le_refl 0
  | case2 c cs hspace ih => exact Nat.le_succ_of_le (ih h)
  | case3 => cases h
  | case4 c cs hspace lexeme rest hread ih =>
    obtain ⟨others, hothers, rfl⟩ := Option.map_eq_some_iff.1 h
    have hrest := lexeme?_length hread
    have hlength := ih hothers
    rw [List.length_cons]
    omega

/-! ## Sources -/

mutual

/-- The number of arrays, objects and other values in JSON text. -/
def Source.size : Source → Nat
  | .null | .bool _ | .number _ | .string _ => 1
  | .array items => sizeItems items + 1
  | .object members => sizeMembers members + 1

/-- The number of values in items. -/
def Source.sizeItems : List Source → Nat
  | [] => 0
  | item :: items => size item + sizeItems items

/-- The number of values in members. -/
def Source.sizeMembers : List (Option String × Source) → Nat
  | [] => 0
  | (_, value) :: members => size value + sizeMembers members

end

namespace Source

theorem sizeItems_append (items more : List Source) :
    sizeItems (items ++ more) = sizeItems items + sizeItems more := by
  induction items with
  | nil => exact (Nat.zero_add _).symm
  | cons item items ih => rw [List.cons_append, sizeItems, sizeItems, ih, Nat.add_assoc]

theorem sizeMembers_append (members more : List (Option String × Source)) :
    sizeMembers (members ++ more) = sizeMembers members + sizeMembers more := by
  induction members with
  | nil => exact (Nat.zero_add _).symm
  | cons member members ih => rw [List.cons_append, sizeMembers, sizeMembers, ih, Nat.add_assoc]

theorem sizeItems_reverse (items : List Source) : sizeItems items.reverse = sizeItems items := by
  induction items with
  | nil => rfl
  | cons item items ih =>
    rw [List.reverse_cons, sizeItems_append, ih, sizeItems, sizeItems, sizeItems, Nat.add_zero,
      Nat.add_comm]

theorem sizeMembers_reverse (members : List (Option String × Source)) :
    sizeMembers members.reverse = sizeMembers members := by
  induction members with
  | nil => rfl
  | cons member members ih =>
    rw [List.reverse_cons, sizeMembers_append, ih, sizeMembers, sizeMembers, sizeMembers,
      Nat.add_zero, Nat.add_comm]

end Source

/-- The number of values that are in open arrays and objects, with these. -/
def Open.size : List Open → Nat
  | [] => 0
  | .array items :: stack => Source.sizeItems items + 1 + size stack
  | .object members _ :: stack => Source.sizeMembers members + 1 + size stack

namespace Source

/-- The reader makes no more values of lexemes than there are, whether a value comes next or has
just been read. -/
theorem size_start?_and_finish? :
    (∀ lexemes stack source, start? lexemes stack = some source →
        source.size ≤ lexemes.length + Open.size stack) ∧
      ∀ value lexemes stack source, finish? value lexemes stack = some source →
        source.size ≤ value.size + lexemes.length + Open.size stack := by
  apply start?.mutual_induct
    (fun lexemes stack => ∀ source, start? lexemes stack = some source →
      source.size ≤ lexemes.length + Open.size stack)
    (fun value lexemes stack => ∀ source, finish? value lexemes stack = some source →
      source.size ≤ value.size + lexemes.length + Open.size stack)
  case case9 =>
    -- no value begins so
    intro lexemes stack _ _ _ _ _ _ _ _ source h
    simp_all [start?]
  case case10 =>
    intro value source h
    cases h
    simp [Open.size]
  case case12 =>
    intro value rest items stack ih source h
    rw [finish?] at h
    have hle := ih source h
    rw [size, sizeItems_reverse, sizeItems] at hle
    rw [List.length_cons, Open.size]
    omega
  case case14 =>
    intro value rest members name stack ih source h
    rw [finish?] at h
    have hle := ih source h
    rw [size, sizeMembers_reverse, sizeMembers] at hle
    rw [List.length_cons, Open.size]
    omega
  case case15 =>
    intro lexemes value stack _ _ _ _ _ source h
    simp_all [finish?]
  all_goals
    intros
    rename_i ih source h
    simp only [start?, finish?] at h
    have hle := ih source h
    simp only [size, sizeItems, sizeMembers, Open.size, List.length_cons] at hle ⊢
    omega

end Source

/-! ## Values -/

mutual

/-- The number of arrays, objects and other values in a value. -/
def size : Json → Nat
  | .null | .bool _ | .number _ | .string _ => 1
  | .array items => sizeItems items + 1
  | .object members => sizeMembers members + 1

/-- The number of values in items. -/
def sizeItems : List Json → Nat
  | [] => 0
  | item :: items => size item + sizeItems items

/-- The number of values in members. -/
def sizeMembers : Properties → Nat
  | [] => 0
  | (_, v) :: members => size v + sizeMembers members

end

theorem size_pos (v : Json) : 0 < v.size := by
  cases v <;> simp [size]

/-- An array has more values than items. -/
theorem length_lt_size_array (items : List Json) : items.length < size (.array items) := by
  have hle : items.length ≤ sizeItems items := by
    induction items with
    | nil => exact Nat.le_refl 0
    | cons item items ih =>
      have hitem := size_pos item
      rw [List.length_cons, sizeItems]
      omega
  rw [size]
  omega

theorem size_le_of_mem {members : Properties} {name : String} {v : Json}
    (h : (name, v) ∈ members) : v.size ≤ sizeMembers members := by
  induction members with
  | nil => cases h
  | cons member members ih =>
    rw [sizeMembers]
    rcases List.mem_cons.1 h with rfl | hmem
    · exact Nat.le_add_right ..
    · exact Nat.le_trans (ih hmem) (Nat.le_add_left ..)

theorem sizeMembers_insertEntry (name : String) (v : Json) (members : Properties) :
    sizeMembers (insertEntry name v members) ≤ v.size + sizeMembers members := by
  induction members with
  | nil => exact Nat.le_refl _
  | cons member members ih =>
    rw [insertEntry]
    split
    · exact Nat.le_refl _
    · rw [sizeMembers, sizeMembers]
      omega
    · rw [sizeMembers, sizeMembers]
      omega

/-- To put members in order loses those of which the name is repeated. -/
theorem sizeMembers_inOrder (members : List (String × Json)) :
    sizeMembers (inOrder members) ≤ sizeMembers members := by
  have hfold : ∀ sorted : Properties, sizeMembers (members.foldl
      (fun sorted member => insertEntry member.1 member.2 sorted) sorted) ≤
        sizeMembers sorted + sizeMembers members := by
    induction members with
    | nil => exact fun _ => Nat.le_refl _
    | cons member members ih =>
      intro sorted
      have hrest := ih (insertEntry member.1 member.2 sorted)
      have hfirst := sizeMembers_insertEntry member.1 member.2 sorted
      rw [List.foldl_cons, sizeMembers]
      omega
  have h := hfold []
  rw [sizeMembers, Nat.zero_add] at h
  exact h

mutual

/-- A value has no more parts than its source. -/
theorem size_toJson? : ∀ {source : Source} {depth : Nat} {v : Json},
    source.toJson? depth = some v → v.size ≤ source.size
  | .null, _, _, h => by
    cases h
    exact Nat.le_refl 1
  | .bool _, _, _, h => by
    cases h
    exact Nat.le_refl 1
  | .number _, _, _, h => by
    obtain ⟨n, -, rfl⟩ := Option.map_eq_some_iff.1 h
    exact Nat.le_refl 1
  | .string _, _, _, h => by
    obtain ⟨s, -, rfl⟩ := Option.map_eq_some_iff.1 h
    exact Nat.le_refl 1
  | .array items, depth, v, h => by
    rw [Source.toJson?] at h
    split at h
    · cases h
    · obtain ⟨values, hvalues, rfl⟩ := Option.map_eq_some_iff.1 h
      exact Nat.succ_le_succ (size_itemsToJson? hvalues)
  | .object members, depth, v, h => by
    rw [Source.toJson?] at h
    split at h
    · cases h
    · obtain ⟨own, hown, rfl⟩ := Option.map_eq_some_iff.1 h
      exact Nat.succ_le_succ (Nat.le_trans (sizeMembers_inOrder own) (size_membersToJson? hown))

theorem size_itemsToJson? : ∀ {items : List Source} {depth : Nat} {values : List Json},
    Source.itemsToJson? depth items = some values → sizeItems values ≤ Source.sizeItems items
  | [], _, _, h => by
    cases h
    exact Nat.le_refl 0
  | item :: items, depth, values, h => by
    rw [Source.itemsToJson?] at h
    split at h
    · next hitem hitems =>
      cases h
      exact Nat.add_le_add (size_toJson? hitem) (size_itemsToJson? hitems)
    · cases h

theorem size_membersToJson? :
    ∀ {members : List (Option String × Source)} {depth : Nat} {values : List (String × Json)},
      Source.membersToJson? depth members = some values →
        sizeMembers values ≤ Source.sizeMembers members
  | [], _, _, h => by
    cases h
    exact Nat.le_refl 0
  | (name, value) :: members, depth, values, h => by
    unfold Source.membersToJson? at h
    split at h
    · next hvalue hmembers =>
      cases h
      exact Nat.add_le_add (size_toJson? hvalue) (size_membersToJson? hmembers)
    · cases h

end

/-! ## The result -/

/-- A value that is read has no more parts than its text has characters. -/
theorem size_le_of_read? {s : String} {v : Json} (h : read? s = some v) : v.size ≤ s.length := by
  obtain ⟨source, hsource, hvalue⟩ := Option.bind_eq_some_iff.1 h
  obtain ⟨lexemes, hlexemes, hstart⟩ := Option.bind_eq_some_iff.1 hsource
  calc v.size ≤ source.size := size_toJson? hvalue
    _ ≤ lexemes.length := Source.size_start?_and_finish?.1 _ _ _ hstart
    _ ≤ s.toList.length := length_lexemes? hlexemes
    _ = s.length := String.length_toList

/-- An array in an object that is read has fewer items than the text has characters. -/
theorem length_le_of_read? {s : String} {members : Properties} {name : String} {items : List Json}
    (h : read? s = some (.object members)) (hmem : (name, .array items) ∈ members) :
    items.length < s.length := by
  calc items.length < size (.array items) := length_lt_size_array items
    _ ≤ sizeMembers members := size_le_of_mem hmem
    _ ≤ size (.object members) := Nat.le_succ _
    _ ≤ s.length := size_le_of_read? h

/-- The members of an object that is read are in the order of their names. -/
theorem ascending_of_read? {s : String} {members : Properties}
    (h : read? s = some (.object members)) : Ascending members := by
  obtain ⟨source, -, hvalue⟩ := Option.bind_eq_some_iff.1 h
  cases source with
  | object own =>
    rw [Source.toJson?] at hvalue
    split at hvalue
    · cases hvalue
    · obtain ⟨own, -, heq⟩ := Option.map_eq_some_iff.1 hvalue
      cases heq
      exact inOrder_ascending own
  | array items =>
    rw [Source.toJson?] at hvalue
    split at hvalue
    · cases hvalue
    · obtain ⟨values, -, heq⟩ := Option.map_eq_some_iff.1 hvalue
      cases heq
  | number n =>
    obtain ⟨n, -, heq⟩ := Option.map_eq_some_iff.1 hvalue
    cases heq
  | string s =>
    obtain ⟨s, -, heq⟩ := Option.map_eq_some_iff.1 hvalue
    cases heq
  | null => cases hvalue
  | bool b => cases hvalue

end EntityQuery.Json
