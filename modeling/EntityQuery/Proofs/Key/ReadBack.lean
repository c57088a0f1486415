import EntityQuery.Key.Json
import EntityQuery.Proofs.Json.ReadBack

/-!
# Keys read back

The JSON of a key is read as the key.

* Ids and elements.  `KeyId.ofWritten?_toJson`: a number is written as a JSON number and a name as
  a JSON string, so that neither is taken for the other, and a missing id is written as null.
* Keys.  `Key.ofJson_arranged_toJson` reads the key from its JSON as a value, and
  `Key.read?_text_toJson` the value from its text.
-/

namespace EntityQuery

open EntityQuery.Json

/-! ## Objects of two members -/

section Pair

variable {name other : String} {v w : Json}

theorem isFloatless_pair (hv : v.isFloatless = true) (hw : w.isFloatless = true) :
    (Json.object [(name, v), (other, w)]).isFloatless = true := by
  simp [isFloatless, membersAreFloatless, hv, hw]

theorem nesting_pair_le {depth : Nat} (hv : v.nesting ≤ depth) (hw : w.nesting ≤ depth) :
    (Json.object [(name, v), (other, w)]).nesting ≤ depth + 1 := by
  simp only [nesting, membersNesting]
  omega

/-- An object of two members has the fields that are its members, with those of their values in
order. -/
theorem fields?_arranged_pair (hne : name ≠ other) (names : List String) :
    ∃ fields, fields? names (Json.object [(name, v), (other, w)]).arranged = some fields ∧
      fields.find? name = some v.arranged ∧ fields.find? other = some w.arranged := by
  have hnodup : ([(name, v.arranged), (other, w.arranged)].map Prod.fst).Nodup := by simpa using hne
  exact ⟨_, rfl, (findEntry_inOrder hnodup).2 (by simp), (findEntry_inOrder hnodup).2 (by simp)⟩

end Pair

/-! ## Ids -/

namespace KeyId

@[simp] theorem isFloatless_toJson (id : KeyId) : id.toJson.isFloatless = true := by
  cases id <;> rfl

@[simp] theorem nesting_toJson (id : KeyId) : id.toJson.nesting = 0 := by
  cases id <;> rfl

@[simp] theorem arranged_toJson (id : KeyId) : id.toJson.arranged = id.toJson := by
  cases id <;> rfl

/-- An id is read as it is written, a name that looks like a number among them. -/
theorem ofWritten?_toJson (id : KeyId) : ofWritten? id.toJson = some id := by
  cases id with
  | number n =>
    show (JsonNumber.ofInt64 n).int64?.map number = some (number n)
    rw [JsonNumber.int64?_ofInt64, Option.map_some]
  | name s => rfl

/-- A field that holds an id is read as the id. -/
theorem nullable?_toJson {fields : Fields} {name : String} {id : KeyId}
    (h : fields.find? name = some id.toJson) :
    fields.nullable? ofWritten? name = some (some id) := by
  have hread : (ofWritten? id.toJson).map some = some (some id) :=
    congrArg (Option.map some) (ofWritten?_toJson id)
  rw [Fields.nullable?, h]
  cases id with
  | number n => exact hread
  | name s => exact hread

end KeyId

/-! ## Elements -/

namespace PathElement

theorem isFloatless_toJson (element : PathElement) : element.toJson.isFloatless = true := by
  obtain ⟨kind, _ | id⟩ := element
  · exact isFloatless_pair rfl rfl
  · exact isFloatless_pair rfl id.isFloatless_toJson

theorem nesting_toJson_le (element : PathElement) : element.toJson.nesting ≤ 1 := by
  obtain ⟨kind, _ | id⟩ := element
  · exact nesting_pair_le (Nat.le_refl 0) (Nat.le_refl 0)
  · exact nesting_pair_le (Nat.le_refl 0) (Nat.le_of_eq id.nesting_toJson)

/-- An element is read from a record of its kind and its id. -/
theorem ofJson?_eq_some {v : Json} {fields : Fields} {kind : String} {id : Option KeyId}
    (hfields : fields? ["kind", "id"] v = some fields)
    (hkind : fields.find? "kind" = some (.string kind))
    (hid : fields.nullable? KeyId.ofWritten? "id" = some id) : ofJson? v = some ⟨kind, id⟩ := by
  have hstring : fields.required? Json.string? "kind" = some kind := by
    rw [Fields.required?, hkind]
    rfl
  simp only [ofJson?, hfields, hstring, hid, Option.bind_eq_bind, Option.bind_some]

theorem ofJson?_arranged_toJson (element : PathElement) :
    ofJson? element.toJson.arranged = some element := by
  obtain ⟨kind, _ | id⟩ := element
  · obtain ⟨fields, hfields, hkind, hid⟩ := fields?_arranged_pair (v := .string kind) (w := .null)
      (by decide : "kind" ≠ "id") ["kind", "id"]
    refine ofJson?_eq_some hfields hkind ?_
    rw [Fields.nullable?, hid]
    rfl
  · obtain ⟨fields, hfields, hkind, hid⟩ := fields?_arranged_pair (v := .string kind)
      (w := id.toJson) (by decide : "kind" ≠ "id") ["kind", "id"]
    exact ofJson?_eq_some hfields hkind (KeyId.nullable?_toJson (hid.trans (by simp)))

/-- The elements of a path are read one by one. -/
theorem list?_arranged_toJson (path : List PathElement) :
    Json.list? ofJson? (Json.array (path.map toJson)).arranged = some path := by
  have hpath : ∀ path : List PathElement,
      (path.map (Json.arranged ∘ toJson)).mapM ofJson? = some path := by
    intro path
    induction path with
    | nil => rfl
    | cons element path ih =>
      rw [List.map_cons, List.mapM_cons, Function.comp_apply, ofJson?_arranged_toJson, ih]
      rfl
  rw [arranged, arrangedItems_eq_map, List.map_map]
  exact hpath path

end PathElement

/-! ## Keys -/

namespace Key

theorem isFloatless_toJson (key : Key) : key.toJson.isFloatless = true := by
  have hpath : (Json.array (key.path.map PathElement.toJson)).isFloatless = true := by
    refine itemsAreFloatless_iff.2 ?_
    intro item hitem
    obtain ⟨element, -, rfl⟩ := List.mem_map.1 hitem
    exact element.isFloatless_toJson
  obtain ⟨_ | ns, ancestors, last⟩ := key
  · exact isFloatless_pair rfl hpath
  · exact isFloatless_pair rfl hpath

theorem nesting_toJson_le (key : Key) : key.toJson.nesting ≤ 3 := by
  have hpath : (Json.array (key.path.map PathElement.toJson)).nesting ≤ 2 := by
    refine Nat.succ_le_succ (itemsNesting_le_iff.2 ?_)
    intro item hitem
    obtain ⟨element, -, rfl⟩ := List.mem_map.1 hitem
    exact element.nesting_toJson_le
  obtain ⟨_ | ns, ancestors, last⟩ := key
  · exact nesting_pair_le (Nat.zero_le 2) hpath
  · exact nesting_pair_le (Nat.zero_le 2) hpath

/-- The text of the JSON of a key is read as that JSON, with the members of its objects in
order. -/
theorem read?_text_toJson (key : Key) : Json.read? key.toJson.text = some key.toJson.arranged :=
  read?_text key.isFloatless_toJson (Nat.le_trans key.nesting_toJson_le (by decide))

/-- A namespace and a path are read from an object of both. -/
theorem readParts?_pair {v : Json} {ns : Option String}
    (hns : ∀ fields : Fields, fields.find? "namespace" = some v.arranged →
      fields.optional? Json.string? "namespace" = some ns) (path : List PathElement) :
    readParts? (Json.object [("namespace", v),
      ("path", .array (path.map PathElement.toJson))]).arranged = some (ns, path) := by
  obtain ⟨fields, hfields, hv, hpath⟩ := fields?_arranged_pair (v := v)
    (w := .array (path.map PathElement.toJson)) (by decide : "namespace" ≠ "path")
    ["namespace", "path"]
  have hlist : fields.required? (Json.list? PathElement.ofJson?) "path" = some path := by
    rw [Fields.required?, hpath, Option.bind_some, PathElement.list?_arranged_toJson]
  simp only [readParts?, hfields, hns fields hv, hlist, Option.bind_eq_bind, Option.bind_some]

theorem readParts?_arranged_toJson (key : Key) :
    readParts? key.toJson.arranged = some (key.ns, key.path) := by
  obtain ⟨_ | ns, ancestors, last⟩ := key
  · refine readParts?_pair (v := .null) (fun fields hnull => ?_) (ancestors ++ [last])
    rw [Fields.optional?, hnull]
    rfl
  · refine readParts?_pair (v := .string ns) (fun fields hstring => ?_) (ancestors ++ [last])
    rw [Fields.optional?, hstring]
    rfl

/-- A key is read from its JSON. -/
theorem ofJson_arranged_toJson (key : Key) : Key.ofJson key.toJson.arranged = .ok key := by
  simp only [Key.ofJson, readParts?_arranged_toJson, ofPath?_path]

end Key

end EntityQuery
