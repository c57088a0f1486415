import EntityQuery.Json.Lexeme

/-!
# JSON text as written

`Source` is JSON text with the members of an object as they are written: in
their order and with repetitions.  `Source.toJson?` makes a value of it, and
`Json.read?` does both steps.

The reader keeps the open arrays and objects on a stack, so that it is a
recursion on the lexemes.
-/

namespace EntityQuery

namespace Json

/-- JSON text as written. -/
inductive Source where
  | null
  | bool (b : Bool)
  | number (n : Option JsonNumber)
  | string (s : Option String)
  | array (items : List Source)
  | object (members : List (Option String × Source))

/-- An array or object that is not closed yet.  What it holds so far is in reverse order, and an
object knows the name of the member that is being read. -/
inductive Open where
  | array (items : List Source)
  | object (members : List (Option String × Source)) (name : Option String)

mutual

/-- A value comes next. -/
def Source.start? : List Lexeme → List Open → Option Source
  | .null :: rest, stack => finish? .null rest stack
  | .bool b :: rest, stack => finish? (.bool b) rest stack
  | .number n :: rest, stack => finish? (.number n) rest stack
  | .string s :: rest, stack => finish? (.string s) rest stack
  | .openArray :: .closeArray :: rest, stack => finish? (.array []) rest stack
  | .openArray :: rest, stack => start? rest (.array [] :: stack)
  | .openObject :: .closeObject :: rest, stack => finish? (.object []) rest stack
  | .openObject :: .string name :: .colon :: rest, stack => start? rest (.object [] name :: stack)
  | _, _ => none

/-- A value has just been read. -/
def Source.finish? : Source → List Lexeme → List Open → Option Source
  | value, [], [] => some value
  | value, .comma :: rest, .array items :: stack => start? rest (.array (value :: items) :: stack)
  | value, .closeArray :: rest, .array items :: stack =>
    finish? (.array (value :: items).reverse) rest stack
  | value, .comma :: .string next :: .colon :: rest, .object members name :: stack =>
    start? rest (.object ((name, value) :: members) next :: stack)
  | value, .closeObject :: rest, .object members name :: stack =>
    finish? (.object ((name, value) :: members).reverse) rest stack
  | _, _, _ => none

end

/-- JSON text as written. -/
def Source.read? (s : String) : Option Source :=
  (lexemes? s.toList).bind fun lexemes => Source.start? lexemes []

/-! ## Values -/

mutual

/-- The value of JSON text that nests arrays and objects at most `depth` deep. -/
def Source.toJson? (depth : Nat) : Source → Option Json
  | .null => some .null
  | .bool b => some (.bool b)
  | .number n => n.map .number
  | .string s => s.map .string
  | .array items =>
    if depth = 0 then none else (itemsToJson? (depth - 1) items).map .array
  | .object members =>
    if depth = 0 then none else (membersToJson? (depth - 1) members).map .ofMembers

/-- The values of items. -/
def Source.itemsToJson? (depth : Nat) : List Source → Option (List Json)
  | [] => some []
  | item :: items =>
    match toJson? depth item, itemsToJson? depth items with
    | some v, some vs => some (v :: vs)
    | _, _ => none

/-- The values of members. -/
def Source.membersToJson? (depth : Nat) :
    List (Option String × Source) → Option (List (String × Json))
  | [] => some []
  | (name, value) :: members =>
    match name, toJson? depth value, membersToJson? depth members with
    | some k, some v, some kvs => some ((k, v) :: kvs)
    | _, _, _ => none

end

/-- How deep arrays and objects may nest in a text that is read. -/
def maxDepth : Nat := 127

/-- The value of a JSON text. -/
def read? (s : String) : Option Json := (Source.read? s).bind (Source.toJson? maxDepth)

end Json

end EntityQuery
