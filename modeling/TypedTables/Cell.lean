import TypedTables.Value
import TypedTables.Number.Integer
import TypedTables.Text.Blank

/-!
# Cells

The text of a cell and what it stands for. Numbers and truth values may have white space around
them; strings are taken as they are; the components of a composite are separated by commas.
-/

namespace TypedTables

open Number (IntegerFault FloatFault)

/-- Why a cell has no value of its column's type, or a value no place in it. -/
inductive CellFault where
  | integer (text typeText : String) (cause : IntegerFault)
  | float (text typeText : String) (cause : FloatFault)
  | bool (text : String)
  | components (text typeName : String) (expected found : Nat)
  | mismatch (value : Value) (typeText : String)

def CellFault.message : CellFault → String
  | integer text typeText cause => s!"'{text}' is not a valid {typeText}: {cause.message}"
  | float text typeText cause => s!"'{text}' is not a valid {typeText}: {cause.message}"
  | bool text => s!"'{text}' is not a valid bool"
  | components text typeName expected found =>
    s!"'{text}' is not a valid {typeName}: expected {expected} components, found {found}"
  | mismatch value typeText => s!"value {value.literal} does not match type {typeText}"

/-- Types whose values can be read from the text of a cell. -/
class OfCell (α : Type) where
  ofCell : String → Except CellFault α

export OfCell (ofCell)

def integerCell (typeText : String) (lo hi : Int) (text : String) : Except CellFault Int :=
  (Number.parseInteger lo hi (Text.trim text).toList).mapError (CellFault.integer text typeText)

instance : OfCell UInt8 where
  ofCell text := (integerCell "u8" 0 255 text).map fun i => UInt8.ofNat i.toNat

instance : OfCell Int8 where
  ofCell text := (integerCell "i8" (-128) 127 text).map Int8.ofInt

instance : OfCell UInt16 where
  ofCell text := (integerCell "u16" 0 65535 text).map fun i => UInt16.ofNat i.toNat

instance : OfCell Int16 where
  ofCell text := (integerCell "i16" (-32768) 32767 text).map Int16.ofInt

instance : OfCell UInt32 where
  ofCell text := (integerCell "u32" 0 4294967295 text).map fun i => UInt32.ofNat i.toNat

instance : OfCell Int32 where
  ofCell text := (integerCell "i32" (-2147483648) 2147483647 text).map Int32.ofInt

instance : OfCell UInt64 where
  ofCell text := (integerCell "u64" 0 18446744073709551615 text).map fun i => UInt64.ofNat i.toNat

instance : OfCell Int64 where
  ofCell text :=
    (integerCell "i64" (-9223372036854775808) 9223372036854775807 text).map Int64.ofInt

instance : OfCell Single where
  ofCell text := (Single.parse (Text.trim text).toList).mapError (CellFault.float text "f32")

instance : OfCell Double where
  ofCell text := (Double.parse (Text.trim text).toList).mapError (CellFault.float text "f64")

instance : OfCell Bool where
  ofCell text :=
    let word := Text.trim text
    if Text.sameIgnoringAsciiCase word "true" then .ok true
    else if Text.sameIgnoringAsciiCase word "false" then .ok false
    else .error (.bool text)

instance : OfCell String where
  ofCell text := .ok text

/-- The components of a composite cell, without the white space around them; there must be as many
as expected. -/
def splitComponents (text typeName : String) (expected : Nat) : Except CellFault (List String) :=
  let parts := (Text.fieldsOn ',' text).map Text.trim
  if parts.length = expected then .ok parts
  else .error (.components text typeName expected parts.length)

end TypedTables
