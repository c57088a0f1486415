import EntityQuery.Proofs.Key.ReadBack

/-!
# How keys are built

A key comes from its kind, from its kind and id, or from JSON, and is changed from there on: put
into another namespace, put under an ancestor, given an id.

The type of keys has no room for a path without elements.  `BareKey` is a key whose path is a bare
list, of which the last element is looked up by its index, and a look-up may fail.  The same
origins and changes make bare keys.

* Steps.  `Key.bare_change`: a change of a bare key is that of the key, so no look-up fails.
* Runs.  `BareKey.build_eq` carries this over every origin and all changes.
* The result.  `Key.build_survives_json`: the path of a key that was built is never empty, and the
  key is read back from its JSON.
-/

namespace EntityQuery

namespace Key

/-- Where a key comes from. -/
inductive Origin where
  /-- A kind without an id. -/
  | incomplete (kind : String)
  /-- A kind and an id. -/
  | root (kind : String) (id : KeyId)
  /-- A JSON value. -/
  | written (v : Json)

/-- A change of a key. -/
inductive Change where
  | withNamespace (ns : Option String)
  | withAncestor (kind : String) (id : KeyId)
  | withId (id : KeyId)

/-- The key of an origin, unless the JSON writes none. -/
def Origin.key : Origin → Except KeyFault Key
  | .incomplete kind => .ok (.incomplete kind)
  | .root kind id => .ok (.root kind id)
  | .written v => Key.ofJson v

/-- The key after a change. -/
def change (key : Key) : Change → Key
  | .withNamespace ns => key.withNamespace ns
  | .withAncestor kind id => key.withAncestor kind id
  | .withId id => key.withId id

/-- The key of an origin after changes, one after another. -/
def build (origin : Origin) (changes : List Change) : Except KeyFault Key :=
  origin.key.map fun key => changes.foldl change key

end Key

/-! ## Keys as bare lists -/

/-- A namespace and a list of elements, of which there may be none. -/
structure BareKey where
  ns : Option String
  path : List PathElement

namespace BareKey

/-- The element at the last index, unless the index is out of range. -/
def pathEnd? (key : BareKey) : Option PathElement := key.path[key.path.length - 1]?

/-- The kind of the last element. -/
def kind? (key : BareKey) : Option String := key.pathEnd?.map PathElement.kind

/-- The id of the last element. -/
def id? (key : BareKey) : Option (Option KeyId) := key.pathEnd?.map PathElement.id

/-- The bare key after a change, unless it needs the last element and there is none. -/
def change? (key : BareKey) : Key.Change → Option BareKey
  | .withNamespace ns => some { key with ns }
  | .withAncestor kind id => some { key with path := ⟨kind, some id⟩ :: key.path }
  | .withId id =>
    key.pathEnd?.map fun last =>
      { key with path := key.path.set (key.path.length - 1) { last with id := some id } }

/-- The bare key of an origin.  Of what is read from JSON a path without elements is refused. -/
def ofOrigin : Key.Origin → Except KeyFault BareKey
  | .incomplete kind => .ok ⟨none, [⟨kind, none⟩]⟩
  | .root kind id => .ok ⟨none, [⟨kind, some id⟩]⟩
  | .written v =>
    match Key.readParts? v with
    | none => .error .malformed
    | some (ns, path) => if path.isEmpty then .error .emptyPath else .ok ⟨ns, path⟩

/-- The bare key of an origin after changes, unless one of them fails. -/
def build (origin : Key.Origin) (changes : List Key.Change) :
    Except KeyFault (Option BareKey) :=
  (ofOrigin origin).map fun key => changes.foldlM change? key

end BareKey

namespace Key

/-- The key with its path as a bare list. -/
def bare (key : Key) : BareKey := ⟨key.ns, key.path⟩

/-- The last index of the path is that of the element of the entity. -/
theorem pathEnd?_bare (key : Key) : key.bare.pathEnd? = some key.last := by
  simp [BareKey.pathEnd?, bare, path]

/-- A change of a bare key is that of the key. -/
theorem bare_change (key : Key) (change : Change) :
    key.bare.change? change = some (key.change change).bare := by
  cases change with
  | withNamespace ns => rfl
  | withAncestor kind id => rfl
  | withId id =>
    rw [BareKey.change?, pathEnd?_bare, Option.map_some]
    simp [bare, Key.change, withId, path]

/-- Changes of a bare key are those of the key. -/
theorem bare_changes (changes : List Change) (key : Key) :
    changes.foldlM BareKey.change? key.bare = some (changes.foldl change key).bare := by
  induction changes generalizing key with
  | nil => rfl
  | cons change changes ih =>
    rw [List.foldlM_cons, bare_change, Option.bind_eq_bind, Option.bind_some, ih, List.foldl_cons]

theorem ofPath?_eq_none_iff {ns : Option String} {path : List PathElement} :
    ofPath? ns path = none ↔ path = [] := by
  rw [ofPath?, ← List.getLast?_eq_none_iff]
  cases path.getLast? <;> simp

/-- The key that a path makes has the path. -/
theorem bare_of_ofPath? {ns : Option String} {path : List PathElement} {key : Key}
    (h : ofPath? ns path = some key) : key.bare = ⟨ns, path⟩ := by
  rcases List.eq_nil_or_concat path with rfl | ⟨ancestors, last, rfl⟩
  · cases h
  · have hkey : ofPath? ns (ancestors ++ [last]) = some ⟨ns, ancestors, last⟩ := by simp [ofPath?]
    rw [List.concat_eq_append, hkey] at h
    cases h
    rw [List.concat_eq_append]
    rfl

/-- The namespace and the path of a key are those that its JSON writes. -/
theorem readParts?_of_ofJson {v : Json} {key : Key} (h : Key.ofJson v = .ok key) :
    readParts? v = some (key.ns, key.path) := by
  rw [Key.ofJson] at h
  split at h
  · cases h
  · next ns path hparts =>
    split at h
    · cases h
    · next made hmade =>
      cases h
      obtain ⟨hns, hpath⟩ := BareKey.mk.inj (bare_of_ofPath? hmade)
      rw [hparts, hns, hpath]

end Key

namespace BareKey

theorem ofOrigin_eq (origin : Key.Origin) : ofOrigin origin = origin.key.map Key.bare := by
  cases origin with
  | incomplete kind => rfl
  | root kind id => rfl
  | written v =>
    rw [ofOrigin, Key.Origin.key, Key.ofJson]
    cases Key.readParts? v with
    | none => rfl
    | some parts =>
      obtain ⟨ns, path⟩ := parts
      cases hkey : Key.ofPath? ns path with
      | none =>
        cases Key.ofPath?_eq_none_iff.1 hkey
        rfl
      | some key =>
        have hne : path ≠ [] := by
          intro hnil
          rw [Key.ofPath?_eq_none_iff.2 hnil] at hkey
          cases hkey
        simp only [hkey, List.isEmpty_eq_false_iff.2 hne, Bool.false_eq_true, if_false]
        rw [Except.map, Key.bare_of_ofPath? hkey]

/-- A bare key is built as the key is, and none of the changes fails. -/
theorem build_eq (origin : Key.Origin) (changes : List Key.Change) :
    build origin changes = (Key.build origin changes).map fun key => some key.bare := by
  rw [build, Key.build, ofOrigin_eq]
  cases origin.key with
  | error fault => rfl
  | ok key => exact congrArg Except.ok (Key.bare_changes changes key)

end BareKey

namespace Key

/-- The path of a key that was built has a last element at every time, so that none of the changes
that built the key fails and none that follows will.  The key is read from its JSON, whether as a
value or as text. -/
theorem build_survives_json {origin : Origin} {changes : List Change} {key : Key}
    (h : build origin changes = .ok key) :
    BareKey.build origin changes = .ok (some key.bare) ∧
      (key.path ≠ [] ∧ key.bare.pathEnd? = some key.last ∧ key.bare.kind? = some key.kind ∧
        key.bare.id? = some key.id ∧
        ∀ id, key.bare.change? (.withId id) = some (key.withId id).bare) ∧
      Key.ofJson key.toJson.arranged = .ok key ∧
      ∃ v, Json.read? key.toJson.text = some v ∧ Key.ofJson v = .ok key := by
  have hread := key.ofJson_arranged_toJson
  refine ⟨?_, ⟨key.path_ne_nil, key.pathEnd?_bare, ?_, ?_, fun id => ?_⟩, hread,
    key.toJson.arranged, key.read?_text_toJson, hread⟩
  · rw [BareKey.build_eq, h]
    rfl
  · rw [BareKey.kind?, pathEnd?_bare]
    rfl
  · rw [BareKey.id?, pathEnd?_bare]
    rfl
  · exact key.bare_change (.withId id)

/-- The JSON of a widget that is named `7`, on a shelf without an id. -/
def shelvedWidget : Json :=
  .object [("path", .array [.object [("kind", .string "Shelf")],
    .object [("id", .string "7"), ("kind", .string "Widget")]])]

/-- The key of the widget, with its shelf in a room with the number 7. -/
def roomedWidget : Key :=
  ⟨none, [⟨"Room", some (.number 7)⟩, ⟨"Shelf", none⟩], ⟨"Widget", some (.name "7")⟩⟩

/-- The number, the name, the missing id and the missing namespace are read back as they are. -/
theorem build_survives_json_roomed :
    build (.written shelvedWidget) [.withAncestor "Room" (.number 7)] = .ok roomedWidget ∧
      roomedWidget.bare.pathEnd? = some ⟨"Widget", some (.name "7")⟩ ∧
      ∃ v, Json.read? roomedWidget.toJson.text = some v ∧ Key.ofJson v = .ok roomedWidget := by
  have hbuilt : build (.written shelvedWidget) [.withAncestor "Room" (.number 7)] =
      .ok roomedWidget := rfl
  obtain ⟨-, ⟨-, hlast, -⟩, -, hread⟩ := build_survives_json hbuilt
  exact ⟨hbuilt, hlast, hread⟩

end Key

end EntityQuery
