import EntityQuery.Text.Blank

/-!
# Integers in text

A natural number is one or more ASCII digits, an integer has one sign in front
of them or none.  `readInt64?` also asks that the integer fits 64 bits.
-/

namespace EntityQuery.Text

/-- The value of an ASCII digit. -/
def digitValue (c : Char) : Nat := c.toNat - '0'.toNat

/-- The number that a run of digits continues `start` to. -/
def foldDigits (start : Nat) (cs : List Char) : Nat :=
  cs.foldl (fun n c => 10 * n + digitValue c) start

/-- The run of digits at the front of a text, and what follows it. -/
def splitDigits (cs : List Char) : List Char × List Char :=
  (cs.takeWhile Char.isDigit, cs.dropWhile Char.isDigit)

theorem splitDigits_length {cs run rest : List Char} (h : splitDigits cs = (run, rest)) :
    run.length + rest.length = cs.length := by
  cases h
  rw [← List.length_append, List.takeWhile_append_dropWhile]

/-- A natural number: one or more ASCII digits. -/
def readNat? (cs : List Char) : Option Nat :=
  if !cs.isEmpty && cs.all Char.isDigit then some (foldDigits 0 cs) else none

/-- An integer: a natural number after one sign or none. -/
def readInt? : List Char → Option Int
  | '-' :: cs => (readNat? cs).map fun n => -(n : Int)
  | '+' :: cs => (readNat? cs).map fun n => (n : Int)
  | cs => (readNat? cs).map fun n => (n : Int)

/-- The 64-bit integer equal to an integer, if there is one. -/
def toInt64? (n : Int) : Option Int64 :=
  if -9223372036854775808 ≤ n ∧ n ≤ 9223372036854775807 then some (Int64.ofInt n) else none

/-- An integer that fits 64 bits. -/
def readInt64? (cs : List Char) : Option Int64 := (readInt? cs).bind toInt64?

/-- Putting an integer into 64 bits keeps its value. -/
theorem toInt_of_toInt64? {n : Int} {i : Int64} (h : toInt64? n = some i) : i.toInt = n := by
  simp only [toInt64?] at h
  split at h
  · next hn =>
    cases h
    exact Int64.toInt_ofInt_of_le (by omega) (by omega)
  · simp at h

/-- The decimal digits of a natural number. -/
def natDigits (n : Nat) : List Char := Nat.toDigits 10 n

/-- The decimal text of an integer. -/
def intDigits : Int → List Char
  | .ofNat n => natDigits n
  | .negSucc n => '-' :: natDigits (n + 1)

/-- The digits of a number, with zeros in front to fill `width` places. -/
def padded (width n : Nat) : List Char :=
  let digits := natDigits n
  List.replicate (width - digits.length) '0' ++ digits

/-- The number of an integer in hexadecimal digits. -/
def hexDigits (n : Nat) : List Char := Nat.toDigits 16 n

end EntityQuery.Text
