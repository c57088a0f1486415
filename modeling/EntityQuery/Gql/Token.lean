import EntityQuery.Json.Number
import EntityQuery.Query.Operator
import EntityQuery.Text.Printable

/-!
# Tokens of query text

The tokens that query text is cut into, and how messages show them.
-/

namespace EntityQuery.Gql

open EntityQuery.Text

/-- A token of query text. -/
inductive Token where
  /-- A bare word: a name or a keyword. -/
  | word (s : String)
  /-- A name in back-quotes. -/
  | quoted (s : String)
  /-- A text in single or double quotes. -/
  | text (s : String)
  | number (n : JsonNumber)
  | operator (op : Operator)
  | comma
  | openParen
  | closeParen
  | star
deriving DecidableEq

namespace Token

/-- A character as a message shows it inside double quotes. -/
def shownChar (c : Char) : List Char :=
  match c with
  | '"' => ['\\', '"']
  | '\\' => ['\\', '\\']
  | '\x00' => ['\\', '0']
  | '\x09' => ['\\', 't']
  | '\x0A' => ['\\', 'n']
  | '\x0D' => ['\\', 'r']
  | c => if isPrintable c then [c] else '\\' :: 'u' :: '{' :: hexDigits c.toNat ++ ['}']

/-- A text as a message shows it. -/
def shownText (s : String) : String :=
  String.ofList ('"' :: s.toList.flatMap shownChar ++ ['"'])

/-- The name by which a message shows an operator. -/
def operatorName : Operator → String
  | .equal => "Eq"
  | .less => "Lt"
  | .greater => "Gt"
  | .atMost => "Lte"
  | .atLeast => "Gte"
  | .unequal => "NotEqual"
  | .notEqual => "Ne"

/-- A token as a message shows it. -/
def shown : Token → String
  | .word s => "Word(" ++ shownText s ++ ")"
  | .quoted s => "Quoted(" ++ shownText s ++ ")"
  | .text s => "Str(" ++ shownText s ++ ")"
  | .number n => "Number(Number(" ++ n.text ++ "))"
  | .operator op => "Op(" ++ operatorName op ++ ")"
  | .comma => "Comma"
  | .openParen => "LParen"
  | .closeParen => "RParen"
  | .star => "Star"

end Token

end EntityQuery.Gql
