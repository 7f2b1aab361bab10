/-!
# Binary floating-point formats

Binary floating-point formats as arithmetic on natural numbers. A bit pattern without its sign is
called a magnitude: `k · 2 ^ fractionBits + m` stands for `m · 2 ^ k` units, where a unit is the
least positive number of the format, so that one formula serves normal and subnormal numbers.
-/

namespace TypedTables.Number

/-- The widths of the fraction and exponent fields of a binary format. -/
structure FloatFormat where
  fractionBits : Nat
  exponentBits : Nat

/-- The nearest whole number to `n / d`; of two equally near ones the even one. -/
def roundHalfEven (n d : Nat) : Nat :=
  if 2 * (n % d) < d then n / d
  else if d < 2 * (n % d) then n / d + 1
  else n / d + n / d % 2

namespace FloatFormat

variable (f : FloatFormat)

def binary32 : FloatFormat := ⟨23, 8⟩

def binary64 : FloatFormat := ⟨52, 11⟩

/-- A unit, the least positive number, is two to the power `-scale`. -/
def scale : Nat := Nat.pow 2 (f.exponentBits - 1) - 2 + f.fractionBits

/-- The magnitude of infinity; those above it are no numbers. -/
def infinity : Nat := (Nat.pow 2 f.exponentBits - 1) * Nat.pow 2 f.fractionBits

def quietNan : Nat := f.infinity + Nat.pow 2 (f.fractionBits - 1)

def signBit : Nat := Nat.pow 2 (f.fractionBits + f.exponentBits)

def isNegative (bits : Nat) : Bool := f.signBit ≤ bits

/-- A bit pattern without its sign. -/
def magnitude (bits : Nat) : Nat := bits % f.signBit

def withSign (negative : Bool) (magnitude : Nat) : Nat :=
  if negative then f.signBit + magnitude else magnitude

def units (magnitude : Nat) : Nat :=
  let whole := Nat.pow 2 f.fractionBits
  if magnitude < whole then magnitude
  else (whole + magnitude % whole) * Nat.pow 2 (magnitude / whole - 1)

/-- The magnitude nearest to `num / den`, a tie going to the even one. Values from the middle
between the largest finite number and the next power of two on become infinite. -/
def ofRatio (num den : Nat) : Nat :=
  let n := num * Nat.pow 2 f.scale
  let k := Nat.log2 (n / den) - f.fractionBits
  min f.infinity (k * Nat.pow 2 f.fractionBits + roundHalfEven n (den * Nat.pow 2 k))

/-- The magnitude nearest to `digits · 10 ^ exponent`. Decimals too far from one to be anything
but infinite or zero are answered without computing the power. -/
def ofDecimal (digits : Nat) (exponent : Int) : Nat :=
  let limit : Int := (Nat.pow 2 f.exponentBits : Nat)
  let top : Int := Nat.log2 digits / 4 + exponent
  if digits = 0 then 0
  else if limit < top then f.infinity
  else if (Nat.log2 digits : Int) + exponent < -limit then 0
  else if 0 ≤ exponent then f.ofRatio (digits * Nat.pow 10 exponent.toNat) 1
  else f.ofRatio digits (Nat.pow 10 (-exponent).toNat)

end FloatFormat

end TypedTables.Number
