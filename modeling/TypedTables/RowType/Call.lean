import TypedTables.ColumnType.Registry
import TypedTables.Row.Fields

/-!
# Emitted calls

The expressions by which emitted code reads one value, from bytes or from the text of a row. A call
is data: it has a text, which goes into the emitted code, and a meaning, which is what running that
code would do.
-/

namespace TypedTables

/-- The methods that the reader of emitted code offers. -/
inductive ReaderMethod where
  | bool | u8 | i8 | varI16 | varU16 | varI32 | varU32 | varI64 | varU64 | f32 | f64 | string
deriving DecidableEq, Repr

namespace ReaderMethod

def name : ReaderMethod → String
  | bool => "read_bool"
  | u8 => "read_u8"
  | i8 => "read_i8"
  | varI16 => "read_7bit_encoded_i16"
  | varU16 => "read_7bit_encoded_u16"
  | varI32 => "read_7bit_encoded_i32"
  | varU32 => "read_7bit_encoded_u32"
  | varI64 => "read_7bit_encoded_i64"
  | varU64 => "read_7bit_encoded_u64"
  | f32 => "read_f32"
  | f64 => "read_f64"
  | string => "read_string"

def run : ReaderMethod → Read Value
  | bool => Value.bool <$> (Wire.read : Read Bool)
  | u8 => Value.byte <$> (Wire.read : Read UInt8)
  | i8 => Value.sbyte <$> (Wire.read : Read Int8)
  | varI16 => Value.int16 <$> (Wire.read : Read Int16)
  | varU16 => Value.uint16 <$> (Wire.read : Read UInt16)
  | varI32 => Value.int32 <$> (Wire.read : Read Int32)
  | varU32 => Value.uint32 <$> (Wire.read : Read UInt32)
  | varI64 => Value.int64 <$> (Wire.read : Read Int64)
  | varU64 => Value.uint64 <$> (Wire.read : Read UInt64)
  | f32 => Value.float <$> (Wire.read : Read Single)
  | f64 => Value.double <$> (Wire.read : Read Double)
  | string => Value.string <$> (Wire.read : Read String)

def ofBuiltin : Builtin → ReaderMethod
  | .bool => bool
  | .byte => u8
  | .sbyte => i8
  | .int16 => varI16
  | .uint16 => varU16
  | .int32 => varI32
  | .uint32 => varU32
  | .int64 => varI64
  | .uint64 => varU64
  | .float => f32
  | .double => f64
  | .string => string

end ReaderMethod

/-- A call that reads one value from bytes: a method of the reader, or a function of the namespace,
which reads the components of its type one after the other. -/
inductive ReaderCall where
  | method (m : ReaderMethod)
  | function (space name : String) (components : List ColumnType)

namespace ReaderCall

def ofType (space : String) : ColumnType → ReaderCall
  | .builtin b => method (ReaderMethod.ofBuiltin b)
  | .custom name _ _ components => function space (CustomType.readFunction name) components

def text : ReaderCall → String
  | method m => s!"reader.{m.name}()"
  | function space name _ => s!"{space}::{name}(reader)"

def run : ReaderCall → Read Value
  | method m => m.run
  | function _ _ components => Value.composite <$> ColumnType.readEach components

end ReaderCall

/-- How a call turns the text of a field into a value: as one of the builtin types, or by a
function of the namespace, which takes the components of its type. -/
inductive TextConversion where
  | cell (b : Builtin)
  | function (space name : String) (type : ColumnType)

/-- A call that reads one value from the text of a row. -/
structure TextCall where
  column : Nat
  conversion : TextConversion

namespace TextCall

def ofType (space : String) (column : Nat) : ColumnType → TextCall
  | .builtin b => ⟨column, .cell b⟩
  | .custom name typeText copies components =>
    ⟨column, .function space (CustomType.parseFunction name)
      (.custom name typeText copies components)⟩

def text (call : TextCall) : String :=
  match call.conversion with
  | .cell b => s!"fields.seek({call.column}).next::<{b.typeText}>()"
  | .function space name _ => s!"fields.seek({call.column}).next_with({space}::{name})"

def run (call : TextCall) : Scan Value := do
  Scan.seek call.column
  match call.conversion with
  | .cell b => do
    let number ← Scan.position
    let content ← Scan.field
    Scan.ofExcept ((b.parse content).mapError (RowError.conversion number))
  | .function _ _ type =>
    Scan.cellWith fun content => (type.parse content).mapError (RowError.conversion 0)

end TextCall

end TypedTables
