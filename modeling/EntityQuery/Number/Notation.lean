import EntityQuery.Number.Shortest
import EntityQuery.Text.Digits

/-!
# Number notation

How a binary64 number is written and read in decimal.

`Binary64.text` writes the shortest decimal that is read back.  From 10⁻⁵ to
below 10¹⁶ it is plain, with a digit after the point at least; beyond these it
has an exponent that always shows its sign.  `Binary64.read?` reads either form
and rounds once.
-/

namespace EntityQuery.Binary64

open EntityQuery.Text

/-- The exponents of ten that are written without an exponent. -/
structure PlainRange where
  least : Int
  greatest : Int

/-- Plain decimals begin at 10⁻⁵ and end before 10¹⁶. -/
def plainRange : PlainRange := ⟨-5, 15⟩

/-- A plain decimal: digits on both sides of the point. -/
def plainDigits (digits : List Char) (exponent : Int) : List Char :=
  if 0 ≤ exponent then
    digits ++ List.replicate exponent.toNat '0' ++ ['.', '0']
  else
    let places := (-exponent).toNat
    if places < digits.length then
      digits.take (digits.length - places) ++ '.' :: digits.drop (digits.length - places)
    else
      '0' :: '.' :: List.replicate (places - digits.length) '0' ++ digits

/-- A decimal with an exponent: one digit before the point, and no point without digits
after it. -/
def exponentDigits (digits : List Char) (exponent : Int) : List Char :=
  let mantissa :=
    match digits with
    | first :: second :: rest => first :: '.' :: second :: rest
    | short => short
  mantissa ++ 'e' :: (if exponent < 0 then '-' else '+') :: natDigits exponent.natAbs

/-- The characters of a number. -/
def chars (x : Binary64) : List Char :=
  let sign := if x.negative then ['-'] else []
  if x.code = 0 then sign ++ ['0', '.', '0']
  else
    let decimal := shortest x.code
    let digits := natDigits decimal.digits
    let leading := decimal.exponent + (digits.length : Int) - 1
    if plainRange.least ≤ leading ∧ leading ≤ plainRange.greatest then
      sign ++ plainDigits digits decimal.exponent
    else
      sign ++ exponentDigits digits leading

/-- The text of a number. -/
def text (x : Binary64) : String := String.ofList x.chars

/-! ## Reading -/

/-- The exponent part of a number, and zero for none. -/
def readExponent? : List Char → Option Int
  | [] => some 0
  | 'e' :: cs => readInt? cs
  | 'E' :: cs => readInt? cs
  | _ => none

/-- The fraction digits of a number and what follows them; no fraction without a point. -/
def splitFraction : List Char → List Char × List Char
  | '.' :: cs => splitDigits cs
  | cs => ([], cs)

/-- An unsigned number: digits, a point with more digits or none, and an exponent or none.
One digit at least stands before or after the point. -/
def readUnsigned? (negative : Bool) (cs : List Char) : Option Binary64 :=
  let (whole, cs) := splitDigits cs
  let (fraction, cs) := splitFraction cs
  if whole.isEmpty && fraction.isEmpty then none
  else
    (readExponent? cs).bind fun exponent =>
      ofDecimal? negative (foldDigits 0 (whole ++ fraction)) (exponent - fraction.length)

/-- A number in plain decimal or with an exponent, after one sign or none.  It is the binary64
number nearest to the decimal; a decimal beyond the largest finite number is refused. -/
def read? : List Char → Option Binary64
  | '-' :: cs => readUnsigned? true cs
  | '+' :: cs => readUnsigned? false cs
  | cs => readUnsigned? false cs

end EntityQuery.Binary64
