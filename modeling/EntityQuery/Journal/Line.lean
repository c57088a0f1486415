import EntityQuery.Journal.Severity
import EntityQuery.Text.Digits
import EntityQuery.TotalOrder

/-!
# Journal lines

An event is written as one line: a JSON object of strings with the name of the
event, its severity and its fields in ascending order of their keys.  No
character of a string breaks the line, because control characters are escaped.
-/

namespace EntityQuery

/-- The fields of an event, each with a key. -/
abbrev EventFields := List (String × String)

namespace Line

open EntityQuery.Text

/-- Whether a character is a control character: U+0000 to U+001F and U+007F to U+009F. -/
def isControl (c : Char) : Bool :=
  c.toNat < 0x20 || (0x7F ≤ c.toNat && c.toNat ≤ 0x9F)

/-- A character of a string as a line writes it. -/
def escapeChar (c : Char) : List Char :=
  match c with
  | '"' => ['\\', '"']
  | '\\' => ['\\', '\\']
  | '\x0A' => ['\\', 'n']
  | '\x0D' => ['\\', 'r']
  | '\x09' => ['\\', 't']
  | c =>
    if isControl c then
      let digits := hexDigits c.toNat
      '\\' :: 'u' :: List.replicate (4 - digits.length) '0' ++ digits
    else [c]

/-- A string in quotes. -/
def stringChars (s : String) : List Char := '"' :: s.toList.flatMap escapeChar ++ ['"']

/-- Fields in ascending order of their keys; fields of one key stay in their order. -/
def inKeyOrder (fields : EventFields) : EventFields :=
  fields.mergeSort fun a b => TotalOrder.order a.1 b.1 != .gt

/-- A member of the object behind a comma. -/
def memberChars (field : String × String) : List Char :=
  ',' :: stringChars field.1 ++ ':' :: stringChars field.2

/-- The characters of a line, without its end. -/
def chars (event : String) (severity : Severity) (fields : EventFields) : List Char :=
  '{' :: stringChars "event" ++ ':' :: stringChars event ++
    memberChars ("severity", severity.text) ++ (inKeyOrder fields).flatMap memberChars ++ ['}']

/-- A line, without its end. -/
def text (event : String) (severity : Severity) (fields : EventFields) : String :=
  String.ofList (chars event severity fields)

/-- A line. -/
def write (event : String) (severity : Severity) (fields : EventFields) : String :=
  String.ofList (chars event severity fields ++ ['\x0A'])

end Line

end EntityQuery
