import EntityQuery.Gql.Keyword
import EntityQuery.Gql.Token

/-!
# Syntax errors

What is wrong with query text that is no query, and what to tell about it.
Characters and tokens are counted from zero.
-/

namespace EntityQuery.Gql

/-- What is wrong with query text. -/
inductive SyntaxError where
  /-- A character that begins no token. -/
  | unexpectedChar (c : Char) (index : Nat)
  /-- A quote that is not closed. -/
  | unterminated (quote : Char)
  /-- A run of digits that is no number. -/
  | invalidNumber (raw : String)
  | unexpectedEnd
  | expectedKeyword (keyword : Keyword) (index : Nat)
  | expectedToken (expected found : Token)
  | expectedName (found : Token)
  | expectedOperator (found : Token)
  | expectedValue (found : Token)
  | expectedInteger (found : Token)
  /-- A count that is a number but no natural one. -/
  | invalidCount (n : JsonNumber)
  | expectedDatetime (found : Token)
  | invalidDatetime (raw : String)
  | expectedKeyId (found : Token)
  /-- A key id that is a number but no signed 64-bit integer. -/
  | invalidKeyId (n : JsonNumber)
  /-- A token after the end of the query. -/
  | trailing (found : Token)
deriving DecidableEq

namespace SyntaxError

/-- What to tell about the error.  For a date and time that cannot be read, the reader's own wording
would follow after a colon; it is left out. -/
def message : SyntaxError → String
  | .unexpectedChar c index => "unexpected '" ++ c.toString ++ "' at " ++ toString index
  | .unterminated quote => "unterminated " ++ quote.toString ++ " literal"
  | .invalidNumber raw => "invalid number: " ++ raw
  | .unexpectedEnd => "unexpected end of query"
  | .expectedKeyword keyword index =>
    "expected " ++ keyword.text ++ " at token " ++ toString index
  | .expectedToken expected found => "expected " ++ expected.shown ++ ", found " ++ found.shown
  | .expectedName found => "expected name, found " ++ found.shown
  | .expectedOperator found => "expected operator, found " ++ found.shown
  | .expectedValue found => "expected value, found " ++ found.shown
  | .expectedInteger found => "expected integer, found " ++ found.shown
  | .invalidCount n => "expected non-negative integer, found " ++ n.text
  | .expectedDatetime found => "expected datetime string, found " ++ found.shown
  | .invalidDatetime raw => "invalid datetime '" ++ raw ++ "'"
  | .expectedKeyId found => "expected key id, found " ++ found.shown
  | .invalidKeyId n => "invalid key id " ++ n.text
  | .trailing found => "unexpected trailing token " ++ found.shown

end SyntaxError

end EntityQuery.Gql
