/-!
# Runs of code points

Sets of code points given by arithmetic runs, the form in which the character tables of this
library are written down. A run lists `first`, `first + step`, … up to `last`.
-/

namespace TypedTables.Text

/-- The code points `first`, `first + step`, …, `last`. -/
structure Run where
  first : Nat
  last : Nat
  step : Nat

def Run.has (r : Run) (n : Nat) : Bool :=
  decide (r.first ≤ n) && decide (n ≤ r.last) && (n - r.first) % r.step == 0

def inRuns (table : List Run) (n : Nat) : Bool :=
  table.any (·.has n)

/-- A run of code points together with the code point that the first of them maps to. The others
follow at the same distances. -/
structure Shift where
  run : Run
  target : Nat

/-- The image of a code point under the first shift that covers it. -/
def shiftOf? (table : List Shift) (n : Nat) : Option Nat :=
  (table.find? (·.run.has n)).map fun s => s.target + (n - s.run.first)

end TypedTables.Text
