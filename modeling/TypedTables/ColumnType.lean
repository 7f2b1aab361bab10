import TypedTables.Wire.Form
import TypedTables.Text.LetterCase

/-!
# Column types

The types that a table may declare for a column: twelve builtin ones, and custom types that put
values of other types together. A type owns the text form, the binary form and the reading of its
values.
-/

namespace TypedTables

/-- The types that need no declaration. -/
inductive Builtin where
  | bool | byte | sbyte | int16 | uint16 | int32 | uint32 | int64 | uint64 | float | double | string
deriving DecidableEq, Repr

namespace Builtin

def ofKeyword? (keyword : String) : Option Builtin :=
  match Text.asciiLower (Text.trim keyword) with
  | "bool" | "boolean" => some bool
  | "byte" | "u8" => some byte
  | "sbyte" | "i8" => some sbyte
  | "short" | "int16" | "i16" => some int16
  | "ushort" | "uint16" | "u16" => some uint16
  | "int" | "int32" | "i32" => some int32
  | "uint" | "uint32" | "u32" => some uint32
  | "long" | "int64" | "i64" => some int64
  | "ulong" | "uint64" | "u64" => some uint64
  | "float" | "single" | "f32" => some float
  | "double" | "f64" => some double
  | "string" => some string
  | _ => none

def typeText : Builtin → String
  | bool => "bool"
  | byte => "u8"
  | sbyte => "i8"
  | int16 => "i16"
  | uint16 => "u16"
  | int32 => "i32"
  | uint32 => "u32"
  | int64 => "i64"
  | uint64 => "u64"
  | float => "f32"
  | double => "f64"
  | string => "String"

def parse : Builtin → String → Except CellFault Value
  | bool, text => (ofCell text).map Value.bool
  | byte, text => (ofCell text).map Value.byte
  | sbyte, text => (ofCell text).map Value.sbyte
  | int16, text => (ofCell text).map Value.int16
  | uint16, text => (ofCell text).map Value.uint16
  | int32, text => (ofCell text).map Value.int32
  | uint32, text => (ofCell text).map Value.uint32
  | int64, text => (ofCell text).map Value.int64
  | uint64, text => (ofCell text).map Value.uint64
  | float, text => (ofCell text).map Value.float
  | double, text => (ofCell text).map Value.double
  | string, text => (ofCell text).map Value.string

/-- The bytes of a value, if it is one of this type. -/
def encode? : Builtin → Value → Option (List UInt8)
  | bool, .bool x => some (Wire.encode x)
  | byte, .byte x => some (Wire.encode x)
  | sbyte, .sbyte x => some (Wire.encode x)
  | int16, .int16 x => some (Wire.encode x)
  | uint16, .uint16 x => some (Wire.encode x)
  | int32, .int32 x => some (Wire.encode x)
  | uint32, .uint32 x => some (Wire.encode x)
  | int64, .int64 x => some (Wire.encode x)
  | uint64, .uint64 x => some (Wire.encode x)
  | float, .float x => some (Wire.encode x)
  | double, .double x => some (Wire.encode x)
  | string, .string x => some (Wire.encode x)
  | _, _ => none

def read : Builtin → Read Value
  | bool => Value.bool <$> Wire.read
  | byte => Value.byte <$> Wire.read
  | sbyte => Value.sbyte <$> Wire.read
  | int16 => Value.int16 <$> Wire.read
  | uint16 => Value.uint16 <$> Wire.read
  | int32 => Value.int32 <$> Wire.read
  | uint32 => Value.uint32 <$> Wire.read
  | int64 => Value.int64 <$> Wire.read
  | uint64 => Value.uint64 <$> Wire.read
  | float => Value.float <$> Wire.read
  | double => Value.double <$> Wire.read
  | string => Value.string <$> Wire.read

end Builtin

/-- The type of a column. -/
inductive ColumnType where
  | builtin (b : Builtin)
  /-- A type put together from components: its name, its name in emitted code, and whether its
  values are handed out as copies. -/
  | custom (name typeText : String) (copies : Bool) (components : List ColumnType)

namespace ColumnType

def typeText : ColumnType → String
  | builtin b => b.typeText
  | custom _ typeText _ _ => typeText

/-- Whether the type needs no declaration. -/
def isBuiltin : ColumnType → Bool
  | builtin _ => true
  | custom .. => false

/-- Whether values are handed out as copies. Strings never are. -/
def copies : ColumnType → Bool
  | builtin b => b != .string
  | custom _ _ copies _ => copies

mutual

def parse : ColumnType → String → Except CellFault Value
  | builtin b, text => b.parse text
  | custom name _ _ components, text => do
    let parts ← splitComponents text name components.length
    return .composite (← parseEach components parts)

def parseEach : List ColumnType → List String → Except CellFault (List Value)
  | t :: types, text :: texts => do
    let v ← parse t text
    let rest ← parseEach types texts
    return v :: rest
  | _, _ => return []

end

mutual

/-- The bytes of a value. It must be one of the type: of the same kind, and for a custom type with
as many components, each one of its own type. -/
def encode : ColumnType → Value → Except CellFault (List UInt8)
  | builtin b, v =>
    match b.encode? v with
    | some bytes => .ok bytes
    | none => .error (.mismatch v b.typeText)
  | custom _ typeText _ components, .composite parts =>
    if parts.length = components.length then encodeEach components parts
    else .error (.mismatch (.composite parts) typeText)
  | custom _ typeText _ _, v => .error (.mismatch v typeText)

def encodeEach : List ColumnType → List Value → Except CellFault (List UInt8)
  | t :: types, v :: values => do
    let bytes ← encode t v
    let rest ← encodeEach types values
    return bytes ++ rest
  | _, _ => return []

end

mutual

def read : ColumnType → Read Value
  | builtin b => b.read
  | custom _ _ _ components => Value.composite <$> readEach components

def readEach : List ColumnType → Read (List Value)
  | [] => pure []
  | t :: types => do
    let v ← read t
    let rest ← readEach types
    return v :: rest

end

mutual

def beq : ColumnType → ColumnType → Bool
  | builtin a, builtin b => a == b
  | custom name text copies components, custom name' text' copies' components' =>
    name == name' && text == text' && copies == copies' && beqEach components components'
  | _, _ => false

def beqEach : List ColumnType → List ColumnType → Bool
  | [], [] => true
  | a :: as, b :: bs => beq a b && beqEach as bs
  | _, _ => false

end

mutual

theorem eq_of_beq_aux : ∀ {a b : ColumnType}, beq a b = true → a = b
  | builtin _, builtin _, h => by simpa [beq] using h
  | custom _ _ _ _, custom _ _ _ _, h => by
    simp only [beq, Bool.and_eq_true, beq_iff_eq] at h
    obtain ⟨⟨⟨rfl, rfl⟩, rfl⟩, h⟩ := h
    rw [eq_of_beqEach h]
  | builtin _, custom _ _ _ _, h => by simp [beq] at h
  | custom _ _ _ _, builtin _, h => by simp [beq] at h

theorem eq_of_beqEach : ∀ {as bs : List ColumnType}, beqEach as bs = true → as = bs
  | [], [], _ => rfl
  | _ :: _, _ :: _, h => by
    simp only [beqEach, Bool.and_eq_true] at h
    rw [eq_of_beq_aux h.1, eq_of_beqEach h.2]
  | [], _ :: _, h => by simp [beqEach] at h
  | _ :: _, [], h => by simp [beqEach] at h

end

mutual

theorem beq_self : ∀ a : ColumnType, beq a a = true
  | builtin _ => by simp [beq]
  | custom _ _ _ components => by simp [beq, beqEach_self components]

theorem beqEach_self : ∀ as : List ColumnType, beqEach as as = true
  | [] => rfl
  | a :: as => by simp [beqEach, beq_self a, beqEach_self as]

end

instance : DecidableEq ColumnType := fun a b =>
  if h : beq a b = true then isTrue (eq_of_beq_aux h)
  else isFalse fun hab => h (hab ▸ beq_self a)

end ColumnType

end TypedTables
