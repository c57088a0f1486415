import EntityQuery.Number.Power
import EntityQuery.Time.Calendar
import EntityQuery.TotalOrder

/-!
# Instants

An instant is a second of Coordinated Universal Time and the nanoseconds since
it began.  A leap second belongs to the second before it: its nanoseconds go on
from 10⁹, and only the last second of a minute can have one.  That is so of the
instants that are read from text or made from a count of seconds; one whose
nanoseconds are set afterwards could go on behind any second, and is not meant.

`Instant.chars` writes the form of RFC 3339 and `Instant.read?` reads it, with
any offset.
-/

namespace EntityQuery

/-- A point in time. -/
structure Instant where
  /-- Seconds from 1970-01-01, leap seconds not counted. -/
  seconds : Int
  /-- Nanoseconds since the second began, from 10⁹ on within a leap second. -/
  nanos : Nat
  nanos_lt : nanos < 2000000000
  leap : nanos < 1000000000 ∨ seconds % 60 = 59
deriving DecidableEq

namespace Instant

open EntityQuery.Text

/-- The instant with the given seconds and nanoseconds, if there is one. -/
def of? (seconds : Int) (nanos : Nat) : Option Instant :=
  if h : nanos < 2000000000 ∧ (nanos < 1000000000 ∨ seconds % 60 = 59) then
    some ⟨seconds, nanos, h.1, h.2⟩
  else none

/-- Which of two instants is earlier. -/
def order (a b : Instant) : Ordering :=
  (TotalOrder.order a.seconds b.seconds).then (TotalOrder.order a.nanos b.nanos)

/-! ## Writing -/

/-- How many digits of the fraction of a second are written. -/
inductive Precision where
  /-- None, three, six or nine: the fewest that lose nothing. -/
  | fewest
  | nine
deriving DecidableEq

/-- The fraction of a second after its point. -/
def fractionChars (precision : Precision) (nanos : Nat) : List Char :=
  match precision with
  | .nine => '.' :: padded 9 nanos
  | .fewest =>
    if nanos = 0 then []
    else if nanos % 1000000 = 0 then '.' :: padded 3 (nanos / 1000000)
    else if nanos % 1000 = 0 then '.' :: padded 6 (nanos / 1000)
    else '.' :: padded 9 nanos

/-- A year in four digits, or with a sign if it is not in 0 to 9999. -/
def yearChars (year : Int) : List Char :=
  if 0 ≤ year ∧ year ≤ 9999 then padded 4 year.toNat
  else (if year < 0 then '-' else '+') :: padded 4 year.natAbs

/-- The characters of an instant, with the given name of the zone. -/
def chars (precision : Precision) (zone : List Char) (t : Instant) : List Char :=
  let date := Date.ofDays (t.seconds / 86400)
  let time := (t.seconds % 86400).toNat
  yearChars date.year ++ '-' :: padded 2 date.month ++ '-' :: padded 2 date.day ++
    'T' :: padded 2 (time / 3600) ++ ':' :: padded 2 (time / 60 % 60) ++
    ':' :: padded 2 (time % 60 + t.nanos / 1000000000) ++
    fractionChars precision (t.nanos % 1000000000) ++ zone

/-- The text of an instant with `Z` for its zone. -/
def text (precision : Precision) (t : Instant) : String :=
  String.ofList (t.chars precision ['Z'])

/-- The text of an instant with its offset from Coordinated Universal Time, which is none. -/
def offsetText (t : Instant) : String :=
  String.ofList (t.chars .fewest ['+', '0', '0', ':', '0', '0'])

/-! ## Reading -/

/-- A number of exactly `width` digits, and what follows it. -/
def readDigits? (width : Nat) (cs : List Char) : Option (Nat × List Char) :=
  let digits := cs.take width
  if digits.length = width ∧ digits.all Char.isDigit then
    some (foldDigits 0 digits, cs.drop width)
  else none

/-- What follows the given character. -/
def readMark? (mark : Char) : List Char → Option (List Char)
  | c :: cs => if c = mark then some cs else none
  | [] => none

/-- What follows the mark between date and time. -/
def readSeparator? : List Char → Option (List Char)
  | c :: cs => if c = 'T' ∨ c = 't' ∨ c = ' ' then some cs else none
  | [] => none

/-- The nanoseconds of a fraction of a second; digits after the ninth are dropped. -/
def readFraction? : List Char → Option (Nat × List Char)
  | '.' :: cs =>
    match splitDigits cs with
    | ([], _) => none
    | (digits, rest) =>
      let kept := digits.take 9
      some (foldDigits 0 kept * tenTo (9 - kept.length), rest)
  | cs => some (0, cs)

/-- Hours and minutes of an offset, in seconds. -/
def readOffsetDigits? (cs : List Char) : Option Nat := do
  let (hours, cs) ← readDigits? 2 cs
  let cs ← readMark? ':' cs
  let (minutes, cs) ← readDigits? 2 cs
  if cs.isEmpty ∧ hours ≤ 23 ∧ minutes ≤ 59 then some (hours * 3600 + minutes * 60) else none

/-- The seconds that a zone is ahead of Coordinated Universal Time.  The sign of a zone that is
behind it is a hyphen or a minus sign. -/
def readZone? : List Char → Option Int
  | ['Z'] => some 0
  | ['z'] => some 0
  | '+' :: cs => (readOffsetDigits? cs).map fun (n : Nat) => (n : Int)
  | '-' :: cs => (readOffsetDigits? cs).map fun (n : Nat) => -(n : Int)
  | '\u2212' :: cs => (readOffsetDigits? cs).map fun (n : Nat) => -(n : Int)
  | _ => none

/-- An instant in the form of RFC 3339.  Second 60 of any minute is a leap second. -/
def read? (cs : List Char) : Option Instant := do
  let (year, cs) ← readDigits? 4 cs
  let cs ← readMark? '-' cs
  let (month, cs) ← readDigits? 2 cs
  let cs ← readMark? '-' cs
  let (day, cs) ← readDigits? 2 cs
  let cs ← readSeparator? cs
  let (hour, cs) ← readDigits? 2 cs
  let cs ← readMark? ':' cs
  let (minute, cs) ← readDigits? 2 cs
  let cs ← readMark? ':' cs
  let (second, cs) ← readDigits? 2 cs
  let (nanos, cs) ← readFraction? cs
  let offset ← readZone? cs
  let date : Date := ⟨year, month, day⟩
  if date.isValid ∧ hour ≤ 23 ∧ minute ≤ 59 ∧ second ≤ 60 then
    let start := date.toDays * 86400 + hour * 3600 + minute * 60 - offset
    if second = 60 then of? (start + 59) (nanos + 1000000000) else of? (start + second) nanos
  else none

end Instant

end EntityQuery
