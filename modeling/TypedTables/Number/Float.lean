import TypedTables.Number.Decimal

/-!
# Single and double precision numbers

The two number types of a table that are not whole, each held by its bit pattern: reading, writing
and comparing them never leaves exact arithmetic, and a number that is none keeps its sign and
payload.
-/

namespace TypedTables

open Number (FloatFormat FloatFault)

/-- A number of the 32-bit binary format. -/
structure Single where
  bits : UInt32
deriving DecidableEq, Repr

/-- A number of the 64-bit binary format. -/
structure Double where
  bits : UInt64
deriving DecidableEq, Repr

def Single.parse (s : List Char) : Except FloatFault Single :=
  (FloatFormat.binary32.parse s).map fun bits => ⟨UInt32.ofNat bits⟩

def Double.parse (s : List Char) : Except FloatFault Double :=
  (FloatFormat.binary64.parse s).map fun bits => ⟨UInt64.ofNat bits⟩

/-- Whether the pattern is no number. -/
def Single.isNan (x : Single) : Bool :=
  FloatFormat.binary32.infinity < FloatFormat.binary32.magnitude x.bits.toNat

/-- Whether the pattern is no number. -/
def Double.isNan (x : Double) : Bool :=
  FloatFormat.binary64.infinity < FloatFormat.binary64.magnitude x.bits.toNat

/-- The shortest plain decimal that reads back. -/
def Single.text (x : Single) : String := FloatFormat.binary32.text x.bits.toNat

/-- The shortest plain decimal that reads back. -/
def Double.text (x : Double) : String := FloatFormat.binary64.text x.bits.toNat

def Single.literal (x : Single) : String := FloatFormat.binary32.literal x.bits.toNat

def Double.literal (x : Double) : String := FloatFormat.binary64.literal x.bits.toNat

end TypedTables
