import EntityQuery.Proofs.Store.ResultOrder

/-!
# Sorting by lawful comparisons

A sort gives an order only if its comparison is one.  `IsPreorderOn` says of a comparison that it
is a total preorder on a collection, and the two comparisons of a query are of this kind
wherever the values of each column can be sorted together.

* Laws.  `IsPreorderOn.of_transCmp`: a comparison that agrees with a lawful one on a collection
  is lawful there.
* Types.  `Json.pairwise_sortTypes`: the types of values from the least to the greatest.
* The result.  `Statement.sorts_by_preorders` is about values, and about entities by any
  fields in any directions.
-/

namespace EntityQuery

open TotalOrder (order)

/-! ## Laws -/

/-- A comparison is a total preorder on the members of a collection. -/
structure IsPreorderOn {α : Type} (cmp : α → α → Ordering) (members : α → Prop) : Prop where
  total : ∀ {a b}, members a → members b → (cmp a b).isLE = true ∨ (cmp b a).isLE = true
  swap : ∀ {a b}, members a → members b → cmp b a = (cmp a b).swap
  lt_trans : ∀ {a b c}, members a → members b → members c →
    cmp a b = .lt → cmp b c = .lt → cmp a c = .lt
  eq_trans : ∀ {a b c}, members a → members b → members c →
    cmp a b = .eq → cmp b c = .eq → cmp a c = .eq
  /-- Members that tie lie alike to any other. -/
  congr : ∀ {a b c}, members a → members b → members c → cmp a b = .eq → cmp a c = cmp b c

namespace IsPreorderOn

variable {α : Type} {cmp lawful : α → α → Ordering} {members : α → Prop}

/-- A comparison that agrees with a lawful one on a collection is a total preorder there. -/
theorem of_transCmp [Std.TransCmp lawful]
    (h : ∀ {a b}, members a → members b → cmp a b = lawful a b) : IsPreorderOn cmp members where
  total := by
    intro a b ha hb
    have hswap : lawful b a = (lawful a b).swap := Std.OrientedCmp.eq_swap
    rw [h ha hb, h hb ha, hswap]
    cases lawful a b with
    | lt | eq => exact .inl rfl
    | gt => exact .inr rfl
  swap := by
    intro a b ha hb
    rw [h ha hb, h hb ha]
    exact Std.OrientedCmp.eq_swap
  lt_trans := by
    intro a b c ha hb hc hab hbc
    rw [h ha hb] at hab
    rw [h hb hc] at hbc
    rw [h ha hc]
    exact Std.TransCmp.lt_trans hab hbc
  eq_trans := by
    intro a b c ha hb hc hab hbc
    rw [h ha hb] at hab
    rw [h hb hc] at hbc
    rw [h ha hc]
    exact Std.TransCmp.eq_trans hab hbc
  congr := by
    intro a b c ha hb hc hab
    rw [h ha hb] at hab
    rw [h ha hc, h hb hc]
    exact Std.TransCmp.congr_left hab

end IsPreorderOn

/-! ## Types -/

theorem TotalOrder.order_char_lt_iff {a b : Char} : order a b = .lt ↔ a < b := by
  show orderInt a.toNat b.toNat = .lt ↔ a < b
  rw [orderInt_lt_iff, Char.lt_def, UInt32.lt_iff_toNat_lt]
  exact Int.ofNat_lt

theorem TotalOrder.order_chars_lt_iff {cs ds : List Char} : order cs ds = .lt ↔ cs < ds := by
  induction cs generalizing ds with
  | nil => cases ds <;> simp [order, orderList]
  | cons c cs ih =>
    cases ds with
    | nil => simp [order, orderList]
    | cons d ds =>
      show (order c d).then (order cs ds) = .lt ↔ _
      rw [Ordering.then_eq_lt, order_char_lt_iff, order_eq_iff, ih, List.cons_lt_cons_iff]

/-- Texts are in the order of their code points. -/
theorem TotalOrder.order_text_lt_iff {s t : String} : order s t = .lt ↔ s < t := by
  rw [String.lt_iff]
  exact order_chars_lt_iff

namespace Json

/-- The types of values, and the absence of one, from the least to the greatest in a sort. -/
def sortTypes : List (Option Json → Prop) :=
  [fun v => v = none, fun v => v = some .null, fun v => ∃ b, v = some (.bool b),
    fun v => ∃ n, v = some (.number n), fun v => ∃ s, v = some (.string s),
    fun v => (∃ items, v = some (.array items)) ∨ ∃ members, v = some (.object members)]

/-- A value of a lesser type is less. -/
theorem sortOrder_of_rank_lt {a b : Option Json} (h : sortRank a < sortRank b) :
    sortOrder a b = .lt := by
  rw [sortOrder_of_rank_ne (Nat.ne_of_lt h)]
  exact TotalOrder.orderInt_lt_iff.2 (Int.ofNat_lt.2 h)

theorem pairwise_sortTypes :
    sortTypes.Pairwise fun lesser greater => ∀ a b, lesser a → greater b → sortOrder a b = .lt := by
  have hranks : List.Forall₂
      (fun (ofType : Option Json → Prop) rank => ∀ v, ofType v → sortRank v = rank) sortTypes
      (List.range 6) := by
    refine .cons ?_ (.cons ?_ (.cons ?_ (.cons ?_ (.cons ?_ (.cons ?_ .nil))))) <;> intro v hv
    · rw [hv]
      rfl
    · rw [hv]
      rfl
    · obtain ⟨b, rfl⟩ := hv
      rfl
    · obtain ⟨n, rfl⟩ := hv
      rfl
    · obtain ⟨s, rfl⟩ := hv
      rfl
    · obtain ⟨items, rfl⟩ | ⟨members, rfl⟩ := hv
      · rfl
      · rfl
  rw [List.pairwise_iff_getElem]
  intro i j hi hj hlt a b ha hb
  apply sortOrder_of_rank_lt
  rw [hranks.get hi hi a ha, hranks.get hj hj b hb]
  simpa using hlt

/-- The comparison of a column that can be sorted is a total preorder. -/
theorem IsSortable.isPreorderOn {values : Option Json → Prop}
    (h : IsSortable fun v => values (some v)) : IsPreorderOn sortOrder values := by
  have hlawful := TotalOrder.transCmp_view sortKey
  have hagree : ∀ {a b}, values a → values b → sortOrder a b = order (sortKey a) (sortKey b) := by
    intro a b ha hb
    apply h.sortOrder_eq
    · intro x hx
      rwa [hx] at ha
    · intro y hy
      rwa [hy] at hb
  exact .of_transCmp hagree

/-- A column of texts can be sorted. -/
theorem isSortable_of_texts {column : Json → Prop} (h : ∀ v, column v → ∃ s, v = .string s) :
    IsSortable column := by
  have htext : ∀ {v}, column v → (∀ s, v ≠ .string s) → False := by
    intro v hv hne
    obtain ⟨s, hs⟩ := h v hv
    exact hne s hs
  refine ⟨fun harray => (htext harray nofun).elim, fun harray => (htext harray nofun).elim,
    fun hobject => (htext hobject nofun).elim, .inl fun hnumber => (htext hnumber nofun).elim⟩

end Json

/-! ## The result -/

namespace Statement

/-- Where the values of each column can be sorted together, values compare by a total preorder
with the types in their order and texts by code point, and entities do by any list of fields in
any directions. -/
theorem sorts_by_preorders :
    (∀ {values : Option Json → Prop}, Json.IsSortable (fun v => values (some v)) →
      IsPreorderOn Json.sortOrder values) ∧
    Json.sortTypes.Pairwise
      (fun lesser greater => ∀ a b, lesser a → greater b → Json.sortOrder a b = .lt) ∧
    (∀ s t : String, Json.sortOrder (some (.string s)) (some (.string t)) = .lt ↔ s < t) ∧
    ∀ (specs : List SortSpec) {members : Entity → Prop}, CanSort specs members →
      IsPreorderOn (orderBySpecs specs) members := by
  refine ⟨Json.IsSortable.isPreorderOn, Json.pairwise_sortTypes, ?_, ?_⟩
  · intro s t
    exact TotalOrder.order_text_lt_iff
  · intro specs members hcan
    have hlawful := transCmp_keyOrder specs
    exact IsPreorderOn.of_transCmp hcan.orderBySpecs_eq

/-- Values of all types, with integers and a float side by side. -/
def assortedValues : List (Option Json) :=
  [none, some .null, some (.bool false), some (.number (.float (.zero true))),
    some (.ofInt64 9007199254740992), some (.string "a"), some (.array [.string "b"])]

/-- A note with a title, and perhaps with a rank. -/
def titledNote (title : String) (rank : Option Json) : Entity :=
  ⟨.root "Note" (.number 1),
    (rank.toList.map fun value => ("rank", value)) ++ [("title", .string title)], []⟩

theorem isSortable_assortedValues : Json.IsSortable fun v => some v ∈ assortedValues := by
  have hobjects : ∀ {members}, some (.object members) ∉ assortedValues := by
    simp [assortedValues, Json.ofInt64]
  refine ⟨fun _ => hobjects, ?_, fun hobject => absurd hobject hobjects, .inr ?_⟩
  · intro items harray
    have hitems : items = [.string "b"] := by simpa [assortedValues, Json.ofInt64] using harray
    rw [hitems]
    rfl
  · intro n hnumber
    have hn : n = .float (.zero true) ∨ n = .ofInt64 9007199254740992 := by
      simpa [assortedValues, Json.ofInt64] using hnumber
    rcases hn with rfl | rfl
    · trivial
    · show Int.natAbs 9007199254740992 ≤ 9007199254740992
      decide

/-- The notes with any title and one of these values for their rank. -/
def assortedNotes (e : Entity) : Prop := ∃ title, ∃ rank ∈ assortedValues, e = titledNote title rank

theorem canSort_assortedNotes :
    CanSort [⟨"rank", .descending⟩, ⟨"title", .ascending⟩] assortedNotes := by
  have hrank : ∀ title rank, (titledNote title rank).get? "rank" = rank := by
    intro title rank
    cases rank <;> simp [titledNote, Entity.get?, findEntry_cons]
  have htitle : ∀ title rank, (titledNote title rank).get? "title" = some (.string title) := by
    intro title rank
    cases rank <;> simp [titledNote, Entity.get?, findEntry_cons]
  intro spec hspec
  simp only [List.mem_cons, List.not_mem_nil, or_false] at hspec
  obtain rfl | rfl := hspec
  · have hcolumn : (fun v => ∃ e, assortedNotes e ∧ e.get? "rank" = some v) =
        fun v => some v ∈ assortedValues := by
      funext v
      apply propext
      constructor
      · intro ⟨e, ⟨title, rank, hmem, he⟩, hvalue⟩
        rw [he, hrank] at hvalue
        rwa [← hvalue]
      · intro hmem
        exact ⟨titledNote "" (some v), ⟨"", some v, hmem, rfl⟩, hrank "" (some v)⟩
    rw [hcolumn]
    exact isSortable_assortedValues
  · apply Json.isSortable_of_texts
    intro v ⟨e, ⟨title, rank, _, he⟩, hvalue⟩
    rw [he, htitle] at hvalue
    exact ⟨title, (Option.some.inj hvalue).symm⟩

/-- A float zero and a large integer are sorted together, and notes by rank and title. -/
theorem sorts_by_preorders_assorted :
    (Json.IsSortable fun v => some v ∈ assortedValues) ∧
      IsPreorderOn Json.sortOrder (fun v => v ∈ assortedValues) ∧
      CanSort [⟨"rank", .descending⟩, ⟨"title", .ascending⟩] assortedNotes ∧
      IsPreorderOn (orderBySpecs [⟨"rank", .descending⟩, ⟨"title", .ascending⟩])
        assortedNotes := by
  obtain ⟨hvalues, -, -, hspecs⟩ := sorts_by_preorders
  exact ⟨isSortable_assortedValues, hvalues isSortable_assortedValues, canSort_assortedNotes,
    hspecs _ canSort_assortedNotes⟩

end Statement

end EntityQuery
