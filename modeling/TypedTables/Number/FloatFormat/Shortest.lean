import TypedTables.Number.FloatFormat
import TypedTables.Number.Digits

/-!
# Shortest decimals

The shortest decimal that reads back as a given finite magnitude. The exact decimal expansion of
the magnitude is cut to one, two, … digits; the cut number and its successor on that grid are
tried, and the first grid on which one of them reads back decides. Of two the nearer is taken, and
the larger if they are equally near. The whole expansion reads back, so the search ends.
-/

namespace TypedTables.Number

/-- The decimal `coefficient · 10 ^ exponent`. -/
structure Decimal where
  coefficient : Nat
  exponent : Int
deriving DecidableEq, Repr

/-- The same decimal without zeros at the end of its coefficient. -/
def dropZeros (coefficient : Nat) (exponent : Int) : Decimal :=
  if coefficient % 10 = 0 ∧ coefficient ≠ 0 then dropZeros (coefficient / 10) (exponent + 1)
  else ⟨coefficient, exponent⟩
termination_by coefficient
decreasing_by omega

namespace FloatFormat

variable (f : FloatFormat)

/-- The exact value of a finite magnitude: a unit is `5 ^ scale` over `10 ^ scale`. -/
def exact (magnitude : Nat) : Decimal :=
  ⟨f.units magnitude * Nat.pow 5 f.scale, -(f.scale : Int)⟩

/-- The decimal without the last `dropped` digits of `whole`, or the next one on that grid, that
reads back as `magnitude`, if there is one. -/
def candidate? (magnitude : Nat) (whole : Decimal) (dropped : Nat) : Option Decimal :=
  let cut := Nat.pow 10 dropped
  let exponent := whole.exponent + dropped
  let low := whole.coefficient / cut
  let readsBack (d : Nat) : Bool := f.ofDecimal d exponent == magnitude
  if readsBack low && (!readsBack (low + 1) || 2 * (whole.coefficient % cut) < cut) then
    some ⟨low, exponent⟩
  else if readsBack (low + 1) then some ⟨low + 1, exponent⟩
  else none

/-- The shortest decimal that reads back as the finite magnitude. -/
def shortest (magnitude : Nat) : Decimal :=
  let whole := f.exact magnitude
  let size := digitCount whole.coefficient
  let found := ((List.range size).findSome?
    fun i => f.candidate? magnitude whole (size - (i + 1))).getD whole
  dropZeros found.coefficient found.exponent

end FloatFormat

end TypedTables.Number
