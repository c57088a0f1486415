/-!
# Keywords

The words that have a meaning of their own in query text, in any case of their
ASCII letters.
-/

namespace EntityQuery.Gql

/-- The keywords that the parser looks for. -/
inductive Keyword where
  | select
  | from
  | where
  | and
  | or
  | order
  | by
  | asc
  | desc
  | limit
  | offset
  | key
  | datetime
  | array
  | true
  | false
  | null
deriving DecidableEq, Repr

namespace Keyword

/-- The word of a keyword, in capitals. -/
def text : Keyword → String
  | .select => "SELECT"
  | .from => "FROM"
  | .where => "WHERE"
  | .and => "AND"
  | .or => "OR"
  | .order => "ORDER"
  | .by => "BY"
  | .asc => "ASC"
  | .desc => "DESC"
  | .limit => "LIMIT"
  | .offset => "OFFSET"
  | .key => "KEY"
  | .datetime => "DATETIME"
  | .array => "ARRAY"
  | .true => "TRUE"
  | .false => "FALSE"
  | .null => "NULL"

/-- Whether a word is the keyword, in any case of its ASCII letters. -/
def isWord (keyword : Keyword) (word : String) : Bool :=
  word.toList.map Char.toUpper == keyword.text.toList

end Keyword

/-- The words that are never names as they are. -/
def reservedWords : List String :=
  ["SELECT", "DISTINCT", "ON", "FROM", "WHERE", "AND", "OR", "NOT", "IN", "IS", "HAS",
    "ANCESTOR", "DESCENDANT", "CONTAINS", "ORDER", "BY", "ASC", "DESC", "LIMIT", "OFFSET",
    "FIRST", "LAST", "KEY", "PROJECT", "DATETIME", "ARRAY", "BLOB", "NULL", "TRUE", "FALSE"]

/-- Whether a word is reserved, in any case of its ASCII letters. -/
def isReserved (word : List Char) : Bool :=
  reservedWords.any fun reserved => word.map Char.toUpper == reserved.toList

/-- Every keyword is reserved. -/
theorem isReserved_of_isWord {keyword : Keyword} {word : String}
    (h : keyword.isWord word = true) : isReserved word.toList = true := by
  simp only [Keyword.isWord, beq_iff_eq] at h
  simp only [isReserved, h]
  cases keyword <;> decide

end EntityQuery.Gql
