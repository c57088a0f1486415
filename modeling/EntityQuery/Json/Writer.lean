import EntityQuery.Json.Basic

/-!
# JSON text

`Json.text` writes a value without white space.  In strings only the quote, the
backslash and the characters below U+0020 are escaped.
-/

namespace EntityQuery.Json

open EntityQuery.Text

/-- A number below `16 ^ 4` in four hexadecimal digits. -/
def fourHexDigits (n : Nat) : List Char :=
  let digits := hexDigits n
  List.replicate (4 - digits.length) '0' ++ digits

/-- A character of a string as JSON text writes it. -/
def escapeChar (c : Char) : List Char :=
  match c with
  | '"' => ['\\', '"']
  | '\\' => ['\\', '\\']
  | '\x08' => ['\\', 'b']
  | '\x09' => ['\\', 't']
  | '\x0A' => ['\\', 'n']
  | '\x0C' => ['\\', 'f']
  | '\x0D' => ['\\', 'r']
  | c => if c.toNat < 0x20 then '\\' :: 'u' :: fourHexDigits c.toNat else [c]

/-- A string in quotes. -/
def stringChars (s : String) : List Char :=
  '"' :: s.toList.flatMap escapeChar ++ ['"']

mutual

/-- The characters of a value. -/
def chars : Json → List Char
  | .null => ['n', 'u', 'l', 'l']
  | .bool true => ['t', 'r', 'u', 'e']
  | .bool false => ['f', 'a', 'l', 's', 'e']
  | .number n => n.chars
  | .string s => stringChars s
  | .array [] => ['[', ']']
  | .array (x :: xs) => '[' :: chars x ++ itemChars xs ++ [']']
  | .object [] => ['{', '}']
  | .object ((k, x) :: xs) =>
    '{' :: stringChars k ++ ':' :: chars x ++ memberChars xs ++ ['}']

/-- The characters of items, each after a comma. -/
def itemChars : List Json → List Char
  | [] => []
  | x :: xs => ',' :: chars x ++ itemChars xs

/-- The characters of members, each after a comma. -/
def memberChars : List (String × Json) → List Char
  | [] => []
  | (k, x) :: xs => ',' :: stringChars k ++ ':' :: chars x ++ memberChars xs

end

/-- The text of a value. -/
def text (v : Json) : String := String.ofList v.chars

end EntityQuery.Json
