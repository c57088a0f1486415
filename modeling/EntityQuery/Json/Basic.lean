import EntityQuery.Json.Number
import EntityQuery.OrderedMap

/-!
# JSON values

`Json` is a value of JSON text.  The members of an object stand in ascending
order of their names, one for a name; `Json.ofMembers` puts them so.  `same` is
the equality of values: it differs from `=` only in that it takes both float
zeros for equal.
-/

namespace EntityQuery

/-- A JSON value. -/
inductive Json where
  | null
  | bool (b : Bool)
  | number (n : JsonNumber)
  | string (s : String)
  | array (items : List Json)
  | object (members : List (String × Json))

instance : Inhabited Json := ⟨.null⟩

/-- The members of an object, in ascending order of their names. -/
abbrev Properties := List (String × Json)

namespace Json

/-- Members in ascending order of their names; of several with one name the last is kept. -/
def inOrder (members : List (String × Json)) : Properties :=
  members.foldl (fun sorted member => insertEntry member.1 member.2 sorted) []

theorem inOrder_ascending (members : List (String × Json)) : Ascending (inOrder members) := by
  have hfold : ∀ (members : List (String × Json)) (sorted : Properties), Ascending sorted →
      Ascending (members.foldl (fun sorted member => insertEntry member.1 member.2 sorted)
        sorted) := by
    intro members
    induction members with
    | nil => exact fun _ h => h
    | cons member members ih => exact fun _ h => ih _ (insertEntry_ascending _ _ h)
  exact hfold members [] .nil

/-- Members of which no two have one name are all found by their names. -/
theorem findEntry_inOrder {members : List (String × Json)} (h : (members.map Prod.fst).Nodup)
    {name : String} {v : Json} :
    findEntry name (inOrder members) = some v ↔ (name, v) ∈ members := by
  have hfold : ∀ (members : List (String × Json)) (sorted : Properties),
      (members.map Prod.fst).Nodup →
        (findEntry name (members.foldl
            (fun sorted member => insertEntry member.1 member.2 sorted) sorted) = some v ↔
          (name, v) ∈ members ∨ name ∉ members.map Prod.fst ∧ findEntry name sorted = some v) := by
    intro members
    induction members with
    | nil => simp
    | cons member members ih =>
      intro sorted hnodup
      obtain ⟨hfresh, hrest⟩ := List.nodup_cons.1 hnodup
      rw [List.foldl_cons, ih _ hrest]
      by_cases hname : name = member.1
      · have hnone : (name, v) ∉ members := by
          intro hmem
          exact hfresh (hname ▸ List.mem_map.2 ⟨_, hmem, rfl⟩)
        have heq : (name, v) = member ↔ member.2 = v := by
          rw [hname]
          exact ⟨fun h => h ▸ rfl, fun h => Prod.ext rfl h.symm⟩
        rw [hname] at hnone heq ⊢
        simp [hnone, hfresh, heq, findEntry_insertEntry_self]
      · have heq : (name, v) ≠ member := fun h => hname (h ▸ rfl)
        simp [heq, hname, findEntry_insertEntry_of_ne hname]
  exact (hfold members [] h).trans (by simp)

/-- The object with the given members. -/
def ofMembers (members : List (String × Json)) : Json := .object (inOrder members)

/-- The number of a signed 64-bit integer. -/
def ofInt64 (i : Int64) : Json := .number (.ofInt64 i)

/-- The text of a string value. -/
def string? : Json → Option String
  | .string s => some s
  | _ => none

/-- The items of an array. -/
def array? : Json → Option (List Json)
  | .array items => some items
  | _ => none

/-- The members of an object. -/
def object? : Json → Option Properties
  | .object members => some members
  | _ => none

mutual

/-- Equality of values, with equal float zeros. -/
def same : Json → Json → Bool
  | .null, .null => true
  | .bool a, .bool b => a == b
  | .number m, .number n => m.same n
  | .string s, .string t => s == t
  | .array xs, .array ys => sameItems xs ys
  | .object xs, .object ys => sameMembers xs ys
  | _, _ => false

/-- Equality of lists of values. -/
def sameItems : List Json → List Json → Bool
  | [], [] => true
  | x :: xs, y :: ys => same x y && sameItems xs ys
  | _, _ => false

/-- Equality of lists of members. -/
def sameMembers : List (String × Json) → List (String × Json) → Bool
  | [], [] => true
  | (k, x) :: xs, (l, y) :: ys => k == l && same x y && sameMembers xs ys
  | _, _ => false

end

end Json

namespace Properties

/-- The value of a property. -/
def get? (properties : Properties) (name : String) : Option Json :=
  findEntry name properties

/-- Whether there is a property with the given name. -/
def has (properties : Properties) (name : String) : Bool :=
  (properties.get? name).isSome

end Properties

end EntityQuery
