import EntityQuery.Key.Id

/-!
# Keys

A key is the address of an entity: a namespace, and a path of elements of which
the last names the entity itself and the others its ancestors.  A path has an
element at least; the type says so.  The key is incomplete while its last
element has no id.
-/

namespace EntityQuery

/-- The field by which callers address one entity. -/
def identityField : String := "id"

/-- The field of which the value is the key of the entity. -/
def keyField : String := "__key__"

/-- One element of the path of a key. -/
structure PathElement where
  kind : String
  /-- None until the store gives out an id. -/
  id : Option KeyId
deriving DecidableEq

/-- The address of an entity. -/
structure Key where
  /-- The namespace that the entity lives in; none for the default one. -/
  ns : Option String
  /-- The elements before the last one, the outermost first. -/
  ancestors : List PathElement
  /-- The element of the entity itself. -/
  last : PathElement
deriving DecidableEq

namespace Key

/-- The key of one element without an id. -/
def incomplete (kind : String) : Key := ⟨none, [], ⟨kind, none⟩⟩

/-- The key of one element. -/
def root (kind : String) (id : KeyId) : Key := ⟨none, [], ⟨kind, some id⟩⟩

/-- The elements of the key, ancestors first. -/
def path (key : Key) : List PathElement := key.ancestors ++ [key.last]

/-- The kind of the entity. -/
def kind (key : Key) : String := key.last.kind

/-- The id of the entity; none while the key is incomplete. -/
def id (key : Key) : Option KeyId := key.last.id

/-- Whether the entity has no id yet. -/
def isIncomplete (key : Key) : Bool := key.id.isNone

/-- The key in another namespace. -/
def withNamespace (key : Key) (ns : Option String) : Key := { key with ns }

/-- The key under one more ancestor, which becomes the outermost. -/
def withAncestor (key : Key) (kind : String) (id : KeyId) : Key :=
  { key with ancestors := ⟨kind, some id⟩ :: key.ancestors }

/-- The key with another id for the entity. -/
def withId (key : Key) (id : KeyId) : Key :=
  { key with last := { key.last with id := some id } }

/-- The key with the elements of a path, unless there are none. -/
def ofPath? (ns : Option String) (path : List PathElement) : Option Key :=
  match path.getLast? with
  | some last => some ⟨ns, path.dropLast, last⟩
  | none => none

theorem path_ne_nil (key : Key) : key.path ≠ [] := by simp [path]

theorem ofPath?_path (key : Key) : ofPath? key.ns key.path = some key := by
  simp [ofPath?, path]

@[simp] theorem id_withId (key : Key) (id : KeyId) : (key.withId id).id = some id := rfl

/-- The text of an element: its kind, a colon, and its id or a question mark. -/
def elementText (element : PathElement) : String :=
  element.kind ++ ":" ++
    match element.id with
    | some id => id.text
    | none => "?"

/-- The text of a key: its elements between slashes.  The namespace does not show. -/
def text (key : Key) : String := "/".intercalate (key.path.map elementText)

/-! ## Where an entity is kept -/

/-- The entities of one kind in one namespace. -/
abbrev Partition := Option String × String

/-- Where an entity is kept: its partition, and the ids on its path. -/
abbrev Address := Partition × List KeyId

/-- The partition of the entity. -/
def partition (key : Key) : Partition := (key.ns, key.kind)

/-- The ids on the path, if every element has one. -/
def ids? (key : Key) : Option (List KeyId) := key.path.mapM PathElement.id

/-- The address of the entity, if every element of the path has an id. -/
def address? (key : Key) : Option Address := key.ids?.map fun ids => (key.partition, ids)

end Key

/-- A kind and an id, written `KEY(kind, id)` in a query. -/
structure KeyLiteral where
  kind : String
  id : KeyId
deriving DecidableEq

namespace KeyLiteral

/-- Whether the literal names the last element of a key. -/
def addresses (literal : KeyLiteral) (key : Key) : Bool :=
  key.kind == literal.kind && key.id == some literal.id

/-- The text of a literal, with its kind as it is. -/
def text (literal : KeyLiteral) : String :=
  "KEY(" ++ literal.kind ++ ", " ++ literal.id.text ++ ")"

end KeyLiteral

end EntityQuery
