import EntityQuery.Gql.Keyword
import EntityQuery.Query.Compile

/-!
# Query text

`CompiledQuery.gql` writes a compiled query as one line of query text:

```text
SELECT * | field, field ...
FROM kind
[WHERE field operator value [(AND | OR) field operator value] ...]
[ORDER BY field (ASC | DESC), ...]
[LIMIT number] [OFFSET number]
```

Names stand as they are if they are plain identifiers, and in back-quotes if
not.  Texts stand in single quotes.
-/

namespace EntityQuery

open EntityQuery.Text

namespace Gql

/-- The quote of names that are not plain identifiers. -/
def backQuote : Char := '\x60'

/-- Whether a character may begin a plain identifier. -/
def isIdentifierStart (c : Char) : Bool := c.isAlpha || c == '_'

/-- Whether a name is a plain identifier: ASCII letters, digits and underscores, no digit in
front, and no reserved word. -/
def isPlainName : List Char → Bool
  | [] => false
  | c :: cs =>
    isIdentifierStart c && cs.all (fun d => isIdentifierStart d || d.isDigit) &&
      !isReserved (c :: cs)

/-- The characters of a name. -/
def nameChars (name : String) : List Char :=
  if isPlainName name.toList then name.toList
  else backQuote :: Quoted.encode backQuote name.toList ++ [backQuote]

/-- A name as query text writes it. -/
def quoteName (name : String) : String := String.ofList (nameChars name)

/-- The characters of a text in single quotes. -/
def textChars (s : String) : List Char := '\'' :: Quoted.encode '\'' s.toList ++ ['\'']

/-- A text as query text writes it. -/
def quoteText (s : String) : String := String.ofList (textChars s)

/-- The characters of several things with a comma and a space between them. -/
def listed : List (List Char) → List Char
  | [] => []
  | [first] => first
  | first :: rest => first ++ ',' :: ' ' :: listed rest

mutual

/-- The characters of a literal value.  An object is written as the text of its JSON. -/
def literalChars : Json → List Char
  | .null => ['N', 'U', 'L', 'L']
  | .bool b => if b then ['t', 'r', 'u', 'e'] else ['f', 'a', 'l', 's', 'e']
  | .number n => n.chars
  | .string s => textChars s
  | .array items => 'A' :: 'R' :: 'R' :: 'A' :: 'Y' :: '(' :: listed (literalItems items) ++ [')']
  | .object members => textChars (Json.object members).text

/-- The characters of each literal of a list. -/
def literalItems : List Json → List (List Char)
  | [] => []
  | item :: items => literalChars item :: literalItems items

end

/-- The characters of a key literal. -/
def keyChars (literal : KeyLiteral) : List Char :=
  'K' :: 'E' :: 'Y' :: '(' :: nameChars literal.kind ++ ',' :: ' ' :: literal.id.chars ++ [')']

/-- The characters of a timestamp. -/
def timestampChars (t : Instant) : List Char :=
  "DATETIME(".toList ++ textChars (t.text .fewest) ++ [')']

end Gql

namespace FilterValue

/-- The characters of a value in query text. -/
def chars : FilterValue → List Char
  | .literal v => Gql.literalChars v
  | .timestamp t => Gql.timestampChars t
  | .key k => Gql.keyChars k

/-- The query text of a value. -/
def gql (value : FilterValue) : String := String.ofList value.chars

end FilterValue

namespace Gql

/-- The characters of a comparison. -/
def clauseChars (clause : Clause) : List Char :=
  nameChars clause.field ++ ' ' :: clause.operator.toList ++ ' ' :: clause.value.chars

/-- The characters of the comparisons after the first, each behind its connector. -/
def joinedChars : List Clause → List Char
  | [] => []
  | clause :: clauses =>
    ' ' :: clause.connector.text.toList ++ ' ' :: clauseChars clause ++ joinedChars clauses

/-- The characters of the fields to return. -/
def projectionChars (fields : List String) : List Char :=
  if fields.isEmpty then ['*'] else listed (fields.map nameChars)

/-- The characters of the filter, behind a space. -/
def filterChars : List Clause → List Char
  | [] => []
  | clause :: clauses => " WHERE ".toList ++ clauseChars clause ++ joinedChars clauses

/-- The characters of a field to sort by. -/
def orderChars (spec : SortSpec) : List Char :=
  nameChars spec.field ++ ' ' :: spec.direction.text.toList

/-- The characters of the fields to sort by, behind a space. -/
def ordersChars (specs : List SortSpec) : List Char :=
  if specs.isEmpty then [] else " ORDER BY ".toList ++ listed (specs.map orderChars)

/-- The characters of a keyword and a count, behind a space; none without a count. -/
def countChars (keyword : Keyword) : Option UInt64 → List Char
  | none => []
  | some n => ' ' :: keyword.text.toList ++ ' ' :: natDigits n.toNat

end Gql

namespace CompiledQuery

/-- The characters of a query. -/
def chars (compiled : CompiledQuery) : List Char :=
  let q := compiled.query
  "SELECT ".toList ++ Gql.projectionChars q.projections ++
    " FROM ".toList ++ Gql.nameChars compiled.kind ++
    Gql.filterChars q.clauses ++ Gql.ordersChars q.orders ++
    Gql.countChars .limit q.limit ++ Gql.countChars .offset q.offset

/-- The text of a query. -/
def gql (compiled : CompiledQuery) : String := String.ofList compiled.chars

end CompiledQuery

namespace Query

/-- The text of the query, once it is compiled. -/
def toGql (q : Query) : Except QueryError String :=
  match q.compile with
  | .error e => .error e
  | .ok compiled => .ok compiled.gql

end Query

end EntityQuery
