import TypedTables.Text.DecimalDigit.Table

/-!
# Digits

Decimal digits: of ASCII, with their values, and of all scripts, without. Hexadecimal digits.
-/

namespace TypedTables.Text

/-- The value of an ASCII digit. -/
def digitValue? (c : Char) : Option Nat :=
  if 48 ≤ c.toNat ∧ c.toNat ≤ 57 then some (c.toNat - 48) else none

def hexValue? (c : Char) : Option Nat :=
  let n := c.toNat
  if 65 ≤ n ∧ n ≤ 70 then some (n - 55)
  else if 97 ≤ n ∧ n ≤ 102 then some (n - 87)
  else digitValue? c

/-- The ASCII digit of a value below ten. -/
def digitChar (d : Nat) : Char :=
  Char.ofNat (48 + d % 10)

/-- General category Nd: the decimal digits of all scripts. -/
def isDecimalDigit (c : Char) : Bool :=
  if c.toNat < 128 then (digitValue? c).isSome else inRuns decimalDigitRuns c.toNat

end TypedTables.Text
