import EntityQuery.TotalOrder

/-!
# Maps in key order

`OrderedMap κ ν` holds at most one value for a key, in ascending order of the
keys.  The order is part of the type, so two maps with the same bindings are
the same map.

The operations are characterised by `get?`:

* `get?_insert` says what a look-up finds;
* `mem_entries_iff` says that the entries are what look-up finds;
* `ext_get?` says that a map is what look-up finds, and `filter_entries_congr` that this is
  so of a part of the keys as well;
* `filter_entries_insert_last` says where in such a part a key behind the others goes.

`insertEntry` is the list function behind `insert`; members of JSON objects
are put in order with it as well.
-/

namespace EntityQuery

open TotalOrder

/-- Puts a binding into a list of bindings in key order.  The value of a key
that is there already is replaced. -/
def insertEntry {κ ν : Type} [TotalOrder κ] (key : κ) (value : ν) :
    List (κ × ν) → List (κ × ν)
  | [] => [(key, value)]
  | entry :: rest =>
    match order key entry.1 with
    | .lt => (key, value) :: entry :: rest
    | .eq => (key, value) :: rest
    | .gt => entry :: insertEntry key value rest

/-- Every key of the list comes before the keys after it. -/
def Ascending {κ ν : Type} [TotalOrder κ] (entries : List (κ × ν)) : Prop :=
  entries.Pairwise fun a b => order a.1 b.1 = .lt

section Entries

variable {κ ν : Type} [TotalOrder κ]

theorem mem_insertEntry {key : κ} {value : ν} {entry : κ × ν} {entries : List (κ × ν)}
    (h : entry ∈ insertEntry key value entries) : entry = (key, value) ∨ entry ∈ entries := by
  induction entries with
  | nil => simpa [insertEntry] using h
  | cons head rest ih =>
    rw [insertEntry] at h
    split at h
    · simpa using h
    · rcases List.mem_cons.1 h with rfl | h
      · exact .inl rfl
      · exact .inr (List.mem_cons_of_mem _ h)
    · rcases List.mem_cons.1 h with rfl | h
      · exact .inr List.mem_cons_self
      · rcases ih h with h | h
        · exact .inl h
        · exact .inr (List.mem_cons_of_mem _ h)

theorem insertEntry_ascending (key : κ) (value : ν) {entries : List (κ × ν)}
    (h : Ascending entries) : Ascending (insertEntry key value entries) := by
  induction entries with
  | nil => simp [insertEntry, Ascending]
  | cons head rest ih =>
    have hrest := List.pairwise_cons.1 h
    rw [insertEntry]
    split
    · next hlt =>
      refine List.pairwise_cons.2 ⟨?_, h⟩
      intro entry hentry
      rcases List.mem_cons.1 hentry with rfl | hentry
      · exact hlt
      · exact order_trans hlt (hrest.1 _ hentry)
    · next heq =>
      refine List.pairwise_cons.2 ⟨?_, hrest.2⟩
      intro entry hentry
      rw [order_eq_iff.1 heq]
      exact hrest.1 _ hentry
    · next hgt =>
      refine List.pairwise_cons.2 ⟨?_, ih hrest.2⟩
      intro entry hentry
      rcases mem_insertEntry hentry with rfl | hentry
      · exact order_gt_iff.1 hgt
      · exact hrest.1 _ hentry

/-- The value of a key in a list of bindings. -/
def findEntry (key : κ) : List (κ × ν) → Option ν
  | [] => none
  | entry :: rest =>
    match order key entry.1 with
    | .eq => some entry.2
    | _ => findEntry key rest

@[simp] theorem findEntry_nil (key : κ) : findEntry key ([] : List (κ × ν)) = none := rfl

theorem findEntry_cons [DecidableEq κ] (key : κ) (entry : κ × ν) (rest : List (κ × ν)) :
    findEntry key (entry :: rest) =
      if key = entry.1 then some entry.2 else findEntry key rest := by
  rw [findEntry]
  split
  · next h => rw [if_pos (order_eq_iff.1 h)]
  · next h => rw [if_neg fun heq => h (order_eq_iff.2 heq)]

theorem findEntry_insertEntry_self (key : κ) (value : ν) (entries : List (κ × ν)) :
    findEntry key (insertEntry key value entries) = some value := by
  induction entries with
  | nil => simp [insertEntry, findEntry]
  | cons head rest ih =>
    rw [insertEntry]
    split
    · simp [findEntry]
    · simp [findEntry]
    · next h => simp [findEntry, h, ih]

theorem findEntry_insertEntry_of_ne {key other : κ} (hne : other ≠ key) (value : ν)
    (entries : List (κ × ν)) :
    findEntry other (insertEntry key value entries) = findEntry other entries := by
  have hother : order other key ≠ .eq := fun h => hne (order_eq_iff.1 h)
  induction entries with
  | nil =>
    simp only [insertEntry, findEntry]
  | cons head rest ih =>
    rw [insertEntry]
    split
    · simp only [findEntry]
    · next heq =>
      have hhead : order other head.1 ≠ .eq := order_eq_iff.1 heq ▸ hother
      simp only [findEntry]
    · simp only [findEntry, ih]

theorem findEntry_eq_some_of_mem {key : κ} {value : ν} {entries : List (κ × ν)}
    (h : Ascending entries) (hmem : (key, value) ∈ entries) :
    findEntry key entries = some value := by
  induction entries with
  | nil => simp at hmem
  | cons head rest ih =>
    have hrest := List.pairwise_cons.1 h
    rcases List.mem_cons.1 hmem with rfl | hmem
    · simp [findEntry]
    · have hgt : order key head.1 = .gt := order_gt_iff.2 (hrest.1 _ hmem)
      simp [findEntry, hgt, ih hrest.2 hmem]

theorem mem_of_findEntry_eq_some {key : κ} {value : ν} {entries : List (κ × ν)}
    (h : findEntry key entries = some value) : (key, value) ∈ entries := by
  induction entries with
  | nil => simp at h
  | cons head rest ih =>
    rw [findEntry] at h
    split at h
    · next heq =>
      have : head = (key, value) := Prod.ext (order_eq_iff.1 heq).symm (by simpa using h)
      exact this ▸ List.mem_cons_self
    · exact List.mem_cons_of_mem _ (ih h)

theorem length_insertEntry {key : κ} (value : ν) {entries : List (κ × ν)}
    (h : findEntry key entries = none) :
    (insertEntry key value entries).length = entries.length + 1 := by
  induction entries with
  | nil => rfl
  | cons head rest ih =>
    rw [findEntry] at h
    rw [insertEntry]
    split
    · rfl
    · next heq => simp [heq] at h
    · next hgt =>
      rw [hgt] at h
      rw [List.length_cons, ih h, List.length_cons]

/-- Lists in key order with the same members are the same. -/
theorem Ascending.eq_of_mem_iff {xs ys : List (κ × ν)} (hxs : Ascending xs) (hys : Ascending ys)
    (h : ∀ entry, entry ∈ xs ↔ entry ∈ ys) : xs = ys := by
  have hnodup : ∀ {entries : List (κ × ν)}, Ascending entries → entries.Nodup := by
    intro entries hentries
    refine hentries.imp ?_
    rintro a b hlt rfl
    rw [order_self] at hlt
    cases hlt
  have hperm := (List.perm_ext_iff_of_nodup (hnodup hxs) (hnodup hys)).2 h
  refine List.Perm.eq_of_pairwise ?_ hxs hys hperm
  intro a b _ _ hab hba
  have hself := order_trans hab hba
  rw [order_self] at hself
  cases hself

end Entries

/-- A map whose entries stand in ascending order of their keys. -/
structure OrderedMap (κ ν : Type) [TotalOrder κ] where
  entries : List (κ × ν)
  ascending : Ascending entries

namespace OrderedMap

variable {κ ν : Type} [TotalOrder κ]

@[ext] theorem ext {m n : OrderedMap κ ν} (h : m.entries = n.entries) : m = n := by
  cases m; cases n; cases h; rfl

/-- The map without entries. -/
def empty : OrderedMap κ ν := ⟨[], .nil⟩

instance : EmptyCollection (OrderedMap κ ν) := ⟨empty⟩

instance : Inhabited (OrderedMap κ ν) := ⟨empty⟩

/-- The value of a key. -/
def get? (m : OrderedMap κ ν) (key : κ) : Option ν :=
  findEntry key m.entries

/-- Binds a key, in place of what it was bound to before. -/
def insert (m : OrderedMap κ ν) (key : κ) (value : ν) : OrderedMap κ ν :=
  ⟨insertEntry key value m.entries, insertEntry_ascending key value m.ascending⟩

/-- The number of keys. -/
def size (m : OrderedMap κ ν) : Nat := m.entries.length

theorem get?_insert [DecidableEq κ] (m : OrderedMap κ ν) (key other : κ) (value : ν) :
    (m.insert key value).get? other = if other = key then some value else m.get? other := by
  split
  · next h => rw [h]; exact findEntry_insertEntry_self key value m.entries
  · next h => exact findEntry_insertEntry_of_ne h value m.entries

/-- The entries are the bindings that look-up finds. -/
theorem mem_entries_iff (m : OrderedMap κ ν) (key : κ) (value : ν) :
    (key, value) ∈ m.entries ↔ m.get? key = some value :=
  ⟨findEntry_eq_some_of_mem m.ascending, mem_of_findEntry_eq_some⟩

/-- Maps in which look-up finds the same are the same. -/
theorem ext_get? {m n : OrderedMap κ ν} (h : ∀ key, m.get? key = n.get? key) : m = n := by
  refine ext (m.ascending.eq_of_mem_iff n.ascending ?_)
  rintro ⟨key, value⟩
  rw [mem_entries_iff, mem_entries_iff, h]

/-- Maps in which look-up finds the same under some of the keys have the same entries there. -/
theorem filter_entries_congr {m n : OrderedMap κ ν} {p : κ → Bool}
    (h : ∀ key, p key = true → m.get? key = n.get? key) :
    m.entries.filter (fun entry => p entry.1) = n.entries.filter fun entry => p entry.1 := by
  have hm : Ascending (m.entries.filter fun entry => p entry.1) := m.ascending.filter _
  have hn : Ascending (n.entries.filter fun entry => p entry.1) := n.ascending.filter _
  refine hm.eq_of_mem_iff hn ?_
  rintro ⟨key, value⟩
  rw [List.mem_filter, List.mem_filter, mem_entries_iff, mem_entries_iff]
  constructor
  · rintro ⟨hfound, hp⟩
    exact ⟨(h key hp).symm.trans hfound, hp⟩
  · rintro ⟨hfound, hp⟩
    exact ⟨(h key hp).trans hfound, hp⟩

/-- A key that comes behind all bound keys of a part is the last of the part once it is bound. -/
theorem filter_entries_insert_last [DecidableEq κ] {m : OrderedMap κ ν} {p : κ → Bool} (key : κ)
    (hkey : p key = true)
    (hlast : ∀ other value, m.get? other = some value → p other = true →
      order other key = .lt) (value : ν) :
    (m.insert key value).entries.filter (fun entry => p entry.1) =
      m.entries.filter (fun entry => p entry.1) ++ [(key, value)] := by
  have hbefore : ∀ entry ∈ m.entries.filter fun entry => p entry.1,
      order entry.1 key = .lt := by
    rintro ⟨other, own⟩ hmem
    rw [List.mem_filter, mem_entries_iff] at hmem
    exact hlast other own hmem.1 hmem.2
  have hleft : Ascending ((m.insert key value).entries.filter fun entry => p entry.1) :=
    (m.insert key value).ascending.filter _
  have hright : Ascending (m.entries.filter (fun entry => p entry.1) ++ [(key, value)]) := by
    refine List.pairwise_append.2 ⟨m.ascending.filter _, List.pairwise_singleton .., ?_⟩
    intro entry hmem last hlast
    cases List.mem_singleton.1 hlast
    exact hbefore entry hmem
  refine hleft.eq_of_mem_iff hright ?_
  rintro ⟨other, own⟩
  rw [List.mem_append, List.mem_filter, List.mem_filter, mem_entries_iff, mem_entries_iff,
    get?_insert, List.mem_singleton]
  by_cases heq : other = key
  · have hnew : ¬(m.get? key = some own ∧ p key = true) := by
      rintro ⟨hget, -⟩
      have hself := hlast key own hget hkey
      rw [order_self] at hself
      cases hself
    rw [if_pos heq, heq, or_iff_right hnew, Option.some.injEq, Prod.mk.injEq]
    exact ⟨fun h => ⟨rfl, h.1.symm⟩, fun h => ⟨h.2.symm, hkey⟩⟩
  · rw [if_neg heq]
    refine (or_iff_left ?_).symm
    intro hsame
    exact heq (Prod.mk.inj hsame).1

/-- Binding a key that was not bound makes one more. -/
theorem size_insert {m : OrderedMap κ ν} {key : κ} (h : m.get? key = none) (value : ν) :
    (m.insert key value).size = m.size + 1 :=
  length_insertEntry value h

/-- Binding a key to what it is bound to already changes nothing. -/
theorem insert_of_get? [DecidableEq κ] {m : OrderedMap κ ν} {key : κ} {value : ν}
    (h : m.get? key = some value) : m.insert key value = m := by
  apply ext_get?
  intro other
  rw [get?_insert]
  split
  · next heq => rw [heq, h]
  · rfl

end OrderedMap

end EntityQuery
