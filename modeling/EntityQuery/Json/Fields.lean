import EntityQuery.Json.Source

/-!
# Records in JSON

A record is written as an object of its fields, or as an array of them in the
order of their declaration.  An array may leave fields out at its end only.

Of an object in text as written, only the declared members have to hold values,
and each of them may be given once.

What a missing field means is up to the field: `Fields.required?` refuses it,
`Fields.getD?` has a value for it, and `Fields.optional?` takes it, like null,
for none.
-/

namespace EntityQuery

namespace Json

/-- The fields of a record. -/
structure Fields where
  /-- Whether the fields are the items of an array. -/
  positional : Bool
  find? : String → Option Json

/-- The fields of a record whose declaration has the given names. -/
def fields? (names : List String) : Json → Option Fields
  | .object members => some ⟨false, fun name => findEntry name members⟩
  | .array items =>
    if items.length ≤ names.length then
      some ⟨true, fun name => (names.zip items).lookup name⟩
    else none
  | _ => none

/-- The members with a name, unless a name has no value. -/
def namedMembers? : List (Option String × Source) → Option (List (String × Source))
  | [] => some []
  | (none, _) :: _ => none
  | (some name, value) :: members => (namedMembers? members).map ((name, value) :: ·)

/-- The fields of a record in text as written, whose declaration has the given names.  Members
with other names are skipped whatever they hold. -/
def Source.fields? (names : List String) : Source → Option Fields
  | .object members => do
    let named ← namedMembers? members
    let declared := named.filter fun member => names.contains member.1
    if (declared.map Prod.fst).Nodup then
      let values ← membersToJson? (maxDepth - 1) (declared.map fun (name, v) => (some name, v))
      some ⟨false, fun name => values.lookup name⟩
    else none
  | .array items =>
    (itemsToJson? (maxDepth - 1) items).bind fun vs => Json.fields? names (.array vs)
  | _ => none

/-- Whether an object has no members but those with the given names; arrays have no names. -/
def hasOnly (names : List String) : Json → Bool
  | .object members => members.all fun member => names.contains member.1
  | _ => true

namespace Fields

variable {α : Type}

/-- A field that has to be there. -/
def required? (fields : Fields) (read : Json → Option α) (name : String) : Option α :=
  (fields.find? name).bind read

/-- A field that has a value of its own where it is missing. -/
def getD? (fields : Fields) (read : Json → Option α) (name : String) (missing : α) : Option α :=
  match fields.find? name with
  | none => some missing
  | some v => read v

/-- A field that may be missing or null. -/
def optional? (fields : Fields) (read : Json → Option α) (name : String) : Option (Option α) :=
  match fields.find? name with
  | none => some none
  | some .null => some none
  | some v => (read v).map some

/-- A field that may be null, and missing in an object but not in an array. -/
def nullable? (fields : Fields) (read : Json → Option α) (name : String) : Option (Option α) :=
  match fields.find? name with
  | none => if fields.positional then none else some none
  | some .null => some none
  | some v => (read v).map some

end Fields

/-- The unsigned 64-bit integer of a number. -/
def uint64? : Json → Option UInt64
  | .number n => n.uint64?
  | _ => none

/-- The items of an array, read one by one. -/
def list? {α : Type} (read : Json → Option α) : Json → Option (List α)
  | .array items => items.mapM read
  | _ => none

/-- The name of a choice: a string, or an object with that name alone bound to null. -/
def choice? : Json → Option String
  | .string s => some s
  | .object [(s, .null)] => some s
  | _ => none

end Json

end EntityQuery
