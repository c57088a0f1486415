import EntityQuery.Gql.Keyword
import EntityQuery.Gql.Statement
import EntityQuery.Gql.Token

/-!
# The grammar of statements

The trees by which a list of tokens is a statement:

```text
statement  = SELECT projection FROM name [WHERE filter] [ORDER BY order (, order)*]
             [LIMIT count] [OFFSET count]
projection = * | name (, name)*
filter     = condition ((AND | OR) condition)*
condition  = name operator operand
operand    = KEY ( element (, element)* ) | DATETIME ( text ) | value
element    = name , id
value      = text | number | TRUE | FALSE | NULL | ARRAY ( ) | ARRAY ( value (, value)* )
order      = name [ASC | DESC]
```

There is one type of trees for each part.  `tokens` is the tokens that a tree stands over,
with every keyword as it is spelled there, and a second function is what the tree says.
Nothing here refers to the parser.
-/

namespace EntityQuery.Gql

variable {τ α : Type}

/-! ## Keywords and lists -/

/-- A word that is the keyword, in some case of its letters. -/
structure Spelling (keyword : Keyword) where
  word : String
  isWord : keyword.isWord word = true

/-- A part that a keyword begins. -/
structure Headed (keyword : Keyword) (τ : Type) where
  keyword : Spelling keyword
  body : τ

/-- The tokens of a part behind its keyword. -/
def Headed.tokens {keyword : Keyword} (part : τ → List Token) (tree : Headed keyword τ) :
    List Token :=
  .word tree.keyword.word :: part tree.body

/-- One part or more with commas between them. -/
structure Listed (τ : Type) where
  first : τ
  others : List τ

namespace Listed

/-- The tokens of the parts and of the commas. -/
def tokens (part : τ → List Token) (tree : Listed τ) : List Token :=
  part tree.first ++ tree.others.flatMap fun other => .comma :: part other

/-- What the parts say, in order. -/
def values (value : τ → α) (tree : Listed τ) : List α :=
  value tree.first :: tree.others.map value

end Listed

/-- The tokens of a part that may be missing. -/
def optionalTokens (part : τ → List Token) : Option τ → List Token
  | none => []
  | some tree => part tree

/-- Tokens in parentheses. -/
def parenthesized (tokens : List Token) : List Token := .openParen :: (tokens ++ [.closeParen])

/-! ## Names and values -/

/-- A name: a bare word, which may be a keyword, or a text in back-quotes. -/
inductive NameTree where
  | word (s : String)
  | quoted (s : String)

namespace NameTree

def token : NameTree → Token
  | .word s => .word s
  | .quoted s => .quoted s

def name : NameTree → String
  | .word s => s
  | .quoted s => s

end NameTree

/-- A value. -/
inductive ValueTree where
  | text (s : String)
  | number (n : JsonNumber)
  | true (keyword : Spelling .true)
  | false (keyword : Spelling .false)
  | null (keyword : Spelling .null)
  | emptyArray (keyword : Spelling .array)
  | array (keyword : Spelling .array) (first : ValueTree) (others : List ValueTree)

namespace ValueTree

mutual

def tokens : ValueTree → List Token
  | .text s => [.text s]
  | .number n => [.number n]
  | .true keyword => [.word keyword.word]
  | .false keyword => [.word keyword.word]
  | .null keyword => [.word keyword.word]
  | .emptyArray keyword => [.word keyword.word, .openParen, .closeParen]
  | .array keyword first others =>
    .word keyword.word :: .openParen :: (tokens first ++ (itemsTokens others ++ [.closeParen]))

/-- The tokens of values with a comma before each. -/
def itemsTokens : List ValueTree → List Token
  | [] => []
  | item :: items => .comma :: (tokens item ++ itemsTokens items)

end

mutual

/-- The value that a tree says. -/
def json : ValueTree → Json
  | .text s => .string s
  | .number n => .number n
  | .true _ => .bool Bool.true
  | .false _ => .bool Bool.false
  | .null _ => .null
  | .emptyArray _ => .array []
  | .array _ first others => .array (json first :: itemsJson others)

def itemsJson : List ValueTree → List Json
  | [] => []
  | item :: items => json item :: itemsJson items

end

end ValueTree

/-! ## Conditions -/

/-- A kind and an id. -/
structure ElementTree where
  kind : NameTree
  id : KeyId

namespace ElementTree

/-- The token of an id: an integer that is a signed one of 64 bits, or a text. -/
def idToken : KeyId → Token
  | .number id => .number (.ofInt64 id)
  | .name s => .text s

def tokens (tree : ElementTree) : List Token := [tree.kind.token, .comma, idToken tree.id]

def element (tree : ElementTree) : String × KeyId := (tree.kind.name, tree.id)

end ElementTree

/-- A text that is a timestamp. -/
structure StampTree where
  text : String
  instant : Instant
  isInstant : Instant.read? text.toList = some instant

/-- The operand of a condition. -/
inductive OperandTree where
  | key (path : Headed .key (Listed ElementTree))
  | datetime (stamp : Headed .datetime StampTree)
  | value (v : ValueTree)

namespace OperandTree

def tokens : OperandTree → List Token
  | .key path => path.tokens fun path => parenthesized (path.tokens ElementTree.tokens)
  | .datetime stamp => stamp.tokens fun stamp => parenthesized [.text stamp.text]
  | .value v => v.tokens

def operand : OperandTree → Operand
  | .key path => .key (path.body.values ElementTree.element)
  | .datetime stamp => .timestamp stamp.body.instant
  | .value v => .value v.json

end OperandTree

/-- A condition. -/
structure ConditionTree where
  field : NameTree
  op : Operator
  operand : OperandTree

namespace ConditionTree

def tokens (tree : ConditionTree) : List Token :=
  tree.field.token :: .operator tree.op :: tree.operand.tokens

def condition (tree : ConditionTree) : Condition :=
  ⟨tree.field.name, tree.op, tree.operand.operand⟩

end ConditionTree

/-- A condition behind its connector. -/
inductive JoinedTree where
  | and (condition : Headed .and ConditionTree)
  | or (condition : Headed .or ConditionTree)

namespace JoinedTree

def tokens : JoinedTree → List Token
  | .and condition => condition.tokens ConditionTree.tokens
  | .or condition => condition.tokens ConditionTree.tokens

def joined : JoinedTree → Connector × Condition
  | .and condition => (.and, condition.body.condition)
  | .or condition => (.or, condition.body.condition)

end JoinedTree

/-- The conditions of a filter. -/
structure FilterTree where
  first : ConditionTree
  others : List JoinedTree

namespace FilterTree

def tokens (tree : FilterTree) : List Token :=
  tree.first.tokens ++ tree.others.flatMap JoinedTree.tokens

/-- The conditions in groups, split before each one that is joined by `OR`. -/
def groups (tree : FilterTree) : List (List Condition) :=
  (((Connector.and, tree.first.condition) :: tree.others.map JoinedTree.joined).splitBy
    fun _ next => next.1 == .and).map (·.map Prod.snd)

end FilterTree

/-! ## Statements -/

/-- The direction of a sort, which may be missing. -/
inductive DirectionTree where
  | missing
  | asc (keyword : Spelling .asc)
  | desc (keyword : Spelling .desc)

namespace DirectionTree

def tokens : DirectionTree → List Token
  | .missing => []
  | .asc keyword => [.word keyword.word]
  | .desc keyword => [.word keyword.word]

def direction : DirectionTree → Direction
  | .missing => .ascending
  | .asc _ => .ascending
  | .desc _ => .descending

end DirectionTree

/-- A field to sort by. -/
structure OrderTree where
  field : NameTree
  direction : DirectionTree

namespace OrderTree

def tokens (tree : OrderTree) : List Token := tree.field.token :: tree.direction.tokens

def spec (tree : OrderTree) : SortSpec := ⟨tree.field.name, tree.direction.direction⟩

end OrderTree

/-- The fields to return. -/
inductive ProjectionTree where
  | star
  | names (list : Listed NameTree)

namespace ProjectionTree

def tokens : ProjectionTree → List Token
  | .star => [.star]
  | .names list => list.tokens fun name => [name.token]

def fields : ProjectionTree → List String
  | .star => []
  | .names list => list.values NameTree.name

end ProjectionTree

/-- The token of a count: an integer that is an unsigned one of 64 bits. -/
def countToken (count : UInt64) : Token := .number (.ofUInt64 count)

/-- A statement. -/
structure StatementTree where
  select : Headed .select ProjectionTree
  source : Headed .from NameTree
  filter : Option (Headed .where FilterTree)
  orders : Option (Headed .order (Headed .by (Listed OrderTree)))
  limit : Option (Headed .limit UInt64)
  offset : Option (Headed .offset UInt64)

namespace StatementTree

def tokens (tree : StatementTree) : List Token :=
  tree.select.tokens ProjectionTree.tokens ++
    (tree.source.tokens (fun name => [name.token]) ++
      (optionalTokens (Headed.tokens FilterTree.tokens) tree.filter ++
        (optionalTokens (Headed.tokens (Headed.tokens (Listed.tokens OrderTree.tokens)))
            tree.orders ++
          (optionalTokens (Headed.tokens fun count => [countToken count]) tree.limit ++
            optionalTokens (Headed.tokens fun count => [countToken count]) tree.offset))))

/-- The statement that a tree says. -/
def statement (tree : StatementTree) : Statement where
  projection := tree.select.body.fields
  kind := tree.source.body.name
  groups := (tree.filter.map (·.body.groups)).getD []
  orders := (tree.orders.map (·.body.body.values OrderTree.spec)).getD []
  limit := tree.limit.map (·.body)
  offset := tree.offset.map (·.body)

end StatementTree

end EntityQuery.Gql
