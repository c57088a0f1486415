/-!
# Sets of code points

A set of code points is written as the ascending list of its bounds: the first
code point in, the first one out again, the next one in, and so on.
-/

namespace EntityQuery.Text

/-- Membership in the set with the given bounds, for a point that `inside` says to be in
or out before the first of them. -/
def withinFrom (inside : Bool) : List Nat → Nat → Bool
  | [], _ => inside
  | bound :: bounds, n => if n < bound then inside else withinFrom (!inside) bounds n

/-- Membership in the set with the given bounds. -/
def within (bounds : List Nat) (n : Nat) : Bool := withinFrom false bounds n

end EntityQuery.Text
