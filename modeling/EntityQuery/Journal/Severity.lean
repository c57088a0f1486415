/-!
# Severities

How grave an event is.  A journal keeps the events from a given severity on.
-/

namespace EntityQuery

/-- How grave an event is. -/
inductive Severity where
  | trace
  | info
  | warn
  | error
  | fatal
deriving DecidableEq, Repr

namespace Severity

/-- Severities by number, the gravest last. -/
def rank : Severity → Nat
  | .trace => 0
  | .info => 1
  | .warn => 2
  | .error => 3
  | .fatal => 4

/-- The word for a severity. -/
def text : Severity → String
  | .trace => "TRACE"
  | .info => "INFO"
  | .warn => "WARN"
  | .error => "ERROR"
  | .fatal => "FATAL"

/-- All severities, the gravest last. -/
def all : List Severity := [.trace, .info, .warn, .error, .fatal]

/-- The severity of a word, in any case of its ASCII letters. -/
def ofText? (word : String) : Option Severity :=
  all.find? fun severity => word.toList.map Char.toUpper == severity.text.toList

/-- Whether the first severity is at least as grave as the second. -/
def reaches (severity threshold : Severity) : Bool := threshold.rank ≤ severity.rank

end Severity

end EntityQuery
