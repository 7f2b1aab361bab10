import TypedTables.Wire.Reader

/-!
# Varints

Whole numbers in groups of seven bits, the least significant group first. Every byte but the last
has its high bit set. A number of `w` bits takes at most `w / 7` groups, rounded up, and the last
of these has room for the remaining bits only.
-/

namespace TypedTables

namespace Varint

def encode (n : Nat) : List UInt8 :=
  if n < 128 then [UInt8.ofNat n] else UInt8.ofNat (n % 128 + 128) :: encode (n / 128)
termination_by n

/-- How many groups a number of `w` bits may take. -/
def maxGroups (w : Nat) : Nat := (w + 6) / 7

/-- The largest byte that may stand in the last of all groups of a number of `w` bits. -/
def lastLimit (w : Nat) : Nat := Nat.pow 2 (w - 7 * (maxGroups w - 1)) - 1

/-- Reads up to `left` further groups into `acc`, the first of them at bit `shift`. -/
def readGroups (w : Nat) : (left shift : Nat) → BitVec w → Read (BitVec w)
  | 0, _, _ => Read.malformed (.tooManyGroups w)
  | left + 1, shift, acc => do
    let b ← Read.byte
    if left = 0 ∧ lastLimit w < b.toNat then
      Read.malformed (.integerOverflow w)
    else
      let acc := acc ||| ((b &&& 0x7f).toBitVec.setWidth w <<< shift)
      if b &&& 0x80 = 0 then pure acc else readGroups w left (shift + 7) acc

/-- Reads a number of `w` bits. -/
def read (w : Nat) : Read (BitVec w) :=
  readGroups w (maxGroups w) 0 0

end Varint

end TypedTables
