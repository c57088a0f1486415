import EntityQuery.Query.Error
import EntityQuery.Text.Blank

/-!
# Comparison operators

The seven operators of filters, how they are read and what they say about two
values that compare in a given way.
-/

namespace EntityQuery

/-- A comparison operator. -/
inductive Operator where
  /-- Written `=`. -/
  | equal
  /-- Written `<`. -/
  | less
  /-- Written `>`. -/
  | greater
  /-- Written `<=`. -/
  | atMost
  /-- Written `>=`. -/
  | atLeast
  /-- Written `<>`. -/
  | unequal
  /-- Written `!=`. -/
  | notEqual
deriving DecidableEq, Repr

namespace Operator

/-- The characters of an operator. -/
def chars : Operator → List Char
  | .equal => ['=']
  | .less => ['<']
  | .greater => ['>']
  | .atMost => ['<', '=']
  | .atLeast => ['>', '=']
  | .unequal => ['<', '>']
  | .notEqual => ['!', '=']

/-- The text of an operator. -/
def text (op : Operator) : String := String.ofList op.chars

/-- The operator with the given characters. -/
def ofChars? : List Char → Option Operator
  | ['='] => some .equal
  | ['<'] => some .less
  | ['>'] => some .greater
  | ['<', '='] => some .atMost
  | ['>', '='] => some .atLeast
  | ['<', '>'] => some .unequal
  | ['!', '='] => some .notEqual
  | _ => none

theorem ofChars?_chars (op : Operator) : ofChars? op.chars = some op := by
  cases op <;> rfl

theorem ofChars?_eq_some_iff {cs : List Char} {op : Operator} :
    ofChars? cs = some op ↔ cs = op.chars := by
  constructor
  · intro h
    unfold ofChars? at h
    split at h <;> simp_all [chars]
    all_goals subst h; rfl
  · intro h
    rw [h, ofChars?_chars]

/-- The characters without one dollar sign in front. -/
def dropDollar : List Char → List Char
  | '$' :: cs => cs
  | cs => cs

/-- The operator that a caller wrote, with white space around it and after one dollar sign or
none. -/
def read (raw : String) : Except QueryError Operator :=
  match ofChars? (Text.trimChars (dropDollar (Text.trimChars raw.toList))) with
  | some op => .ok op
  | none => .error (.unsupportedOperator raw)

/-- Whether the operator is one of the two spellings of inequality. -/
def isNotEqual : Operator → Bool
  | .unequal | .notEqual => true
  | _ => false

/-- Whether the operator holds between two values of which the first lies to the second as
given. -/
def holds : Operator → Ordering → Bool
  | .equal, o => o == .eq
  | .less, o => o == .lt
  | .greater, o => o == .gt
  | .atMost, o => o != .gt
  | .atLeast, o => o != .lt
  | .unequal, o | .notEqual, o => o != .eq

end Operator

end EntityQuery
