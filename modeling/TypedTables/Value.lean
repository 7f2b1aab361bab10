import TypedTables.Number.Float
import TypedTables.Text.Literal
import TypedTables.Text.Split

/-!
# Values

A cell's value once its column's type is known. Values are dynamic data: a table's types are
themselves read from a table.
-/

namespace TypedTables

/-- A typed cell value. -/
inductive Value where
  | bool (b : Bool)
  | byte (n : UInt8)
  | sbyte (n : Int8)
  | int16 (n : Int16)
  | uint16 (n : UInt16)
  | int32 (n : Int32)
  | uint32 (n : UInt32)
  | int64 (n : Int64)
  | uint64 (n : UInt64)
  | float (x : Single)
  | double (x : Double)
  | string (s : String)
  /-- The components of a custom type, in the order of its declaration. -/
  | composite (parts : List Value)
deriving Inhabited

namespace Value

def boolText (b : Bool) : String := if b then "true" else "false"

open Number (natText intText)

mutual

/-- The text form of a value: numbers in the fewest digits, components joined by commas. -/
def text : Value → String
  | bool b => boolText b
  | byte n => natText n.toNat
  | sbyte n => intText n.toInt
  | int16 n => intText n.toInt
  | uint16 n => natText n.toNat
  | int32 n => intText n.toInt
  | uint32 n => natText n.toNat
  | int64 n => intText n.toInt
  | uint64 n => natText n.toNat
  | float x => x.text
  | double x => x.text
  | string s => s
  | composite parts => Text.joinWith "," (texts parts)

def texts : List Value → List String
  | [] => []
  | v :: rest => text v :: texts rest

end

mutual

/-- A value as an expression: the name of its kind and its content as a literal. -/
def literal : Value → String
  | bool b => s!"Bool({boolText b})"
  | byte n => s!"Byte({natText n.toNat})"
  | sbyte n => s!"SByte({intText n.toInt})"
  | int16 n => s!"Int16({intText n.toInt})"
  | uint16 n => s!"UInt16({natText n.toNat})"
  | int32 n => s!"Int32({intText n.toInt})"
  | uint32 n => s!"UInt32({natText n.toNat})"
  | int64 n => s!"Int64({intText n.toInt})"
  | uint64 n => s!"UInt64({natText n.toNat})"
  | float x => s!"Float({x.literal})"
  | double x => s!"Double({x.literal})"
  | string s => s!"String({Text.stringLiteral s})"
  | composite parts => "Composite([" ++ Text.joinWith ", " (literals parts) ++ "])"

def literals : List Value → List String
  | [] => []
  | v :: rest => literal v :: literals rest

end

/-- The value of a whole number that fits 64 bits with a sign, whatever its own width. The widest
unsigned type is left out, as not all of its values fit. -/
def asInt64? : Value → Option Int64
  | byte n => some (Int64.ofNat n.toNat)
  | sbyte n => some n.toInt64
  | int16 n => some n.toInt64
  | uint16 n => some (Int64.ofNat n.toNat)
  | int32 n => some n.toInt64
  | uint32 n => some (Int64.ofNat n.toNat)
  | int64 n => some n
  | _ => none

def asString? : Value → Option String
  | string s => some s
  | _ => none

def asComposite? : Value → Option (List Value)
  | composite parts => some parts
  | _ => none

theorem texts_eq_map (parts : List Value) : texts parts = parts.map text := by
  induction parts with
  | nil => rfl
  | cons v rest ih => simp [texts, ih]

end Value

end TypedTables
