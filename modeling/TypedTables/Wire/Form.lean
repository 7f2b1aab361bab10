import TypedTables.Wire.Varint

/-!
# Binary forms

The bytes of every scalar type. Truth values and 8-bit numbers take one byte; wider whole numbers
are varints, signed ones by their two's complement pattern of the same width; other numbers are
their bit pattern, least significant byte first; a string is its length in bytes as a varint,
followed by its UTF-8 form.
-/

namespace TypedTables

/-- Types whose values have a binary form. -/
class Wire (α : Type) where
  encode : α → List UInt8
  read : Read α

namespace Wire

def littleEndian : (count : Nat) → Nat → List UInt8
  | 0, _ => []
  | count + 1, n => UInt8.ofNat (n % 256) :: littleEndian count (n / 256)

def ofLittleEndian : List UInt8 → Nat
  | [] => 0
  | b :: rest => b.toNat + 256 * ofLittleEndian rest

/-- The UTF-8 form of a text. -/
def utf8 (s : String) : List UInt8 := s.toUTF8.data.toList

/-- The text of a UTF-8 form. -/
def ofUtf8? (bytes : List UInt8) : Option String := String.fromUTF8? ⟨bytes.toArray⟩

/-- Lengths are written in 32 bits. -/
def lengthModulus : Nat := 4294967296

instance : Wire Bool where
  encode b := [if b then 1 else 0]
  read := do return (← Read.byte) != 0

instance : Wire UInt8 where
  encode n := [n]
  read := Read.byte

instance : Wire Int8 where
  encode n := [n.toUInt8]
  read := do return (← Read.byte).toInt8

instance : Wire UInt32 where
  encode n := Varint.encode n.toNat
  read := do return UInt32.ofBitVec (← Varint.read 32)

instance : Wire Int32 where
  encode n := Wire.encode n.toUInt32
  read := do return (← (Wire.read : Read UInt32)).toInt32

instance : Wire UInt64 where
  encode n := Varint.encode n.toNat
  read := do return UInt64.ofBitVec (← Varint.read 64)

instance : Wire Int64 where
  encode n := Wire.encode n.toUInt64
  read := do return (← (Wire.read : Read UInt64)).toInt64

instance : Wire UInt16 where
  encode n := Varint.encode n.toNat
  read := do
    let n ← (Wire.read : Read UInt32)
    if n.toNat < 65536 then pure n.toUInt16 else Read.malformed (.integerOverflow 16)

instance : Wire Int16 where
  encode n := Wire.encode n.toUInt16
  read := do return (← (Wire.read : Read UInt16)).toInt16

instance : Wire Single where
  encode x := littleEndian 4 x.bits.toNat
  read := do return ⟨UInt32.ofNat (ofLittleEndian (← Read.bytes 4))⟩

instance : Wire Double where
  encode x := littleEndian 8 x.bits.toNat
  read := do return ⟨UInt64.ofNat (ofLittleEndian (← Read.bytes 8))⟩

def readText (length : Nat) : Read String := fun r =>
  if length ≤ r.rest.length then
    match ofUtf8? (r.rest.take length) with
    | some s => .ok s (r.advance length)
    | none => Read.malformed .invalidText (r.advance length)
  else Read.malformed .lengthBeyondEnd r

instance : Wire String where
  encode s := Varint.encode ((utf8 s).length % lengthModulus) ++ utf8 s
  read := do
    let length ← (Wire.read : Read UInt32)
    readText length.toNat

end Wire

end TypedTables
