import TypedTables.Table.DataTable
import TypedTables.Table.Dictionary

/-!
# Artifacts

The bytes of a whole table: its content rows, each the binary forms of its cells, with nothing in
between. The first cell that cannot be written fails the table and is named.
-/

namespace TypedTables

def DataTable.encodeCell (t : DataTable) (row : Nat) (f : Field) :
    Except TableError (List UInt8) := do
  let text ← t.sheet.value row f.column
  let located {α : Type} (result : Except CellFault α) : Except TableError α :=
    result.mapError (TableError.conversion row f.column)
  let v ← located (f.type.parse text)
  located (f.type.encode v)

def DataTable.encodeRows (t : DataTable) : Except TableError (List UInt8) := do
  let schema ← t.schema
  let rows ← t.sheet.contentRows
  let records ← rows.mapM fun row => do
    return (← schema.fields.mapM (t.encodeCell row)).flatten
  return records.flatten

/-- The artifact of a dictionary: every cell a string. -/
def Dictionary.encodeRows (d : Dictionary) : Except TableError (List UInt8) := do
  let columns ← d.columns
  let rows ← d.sheet.contentRows
  let records ← rows.mapM fun row => do
    return (← columns.mapM fun column => do
      return Wire.encode (← d.sheet.value row column)).flatten
  return records.flatten

namespace Dictionary

def readStrings : Nat → Read (List String)
  | 0 => pure []
  | n + 1 => do
    let s ← Wire.read
    let rest ← readStrings n
    return s :: rest

/-- The rows of an artifact whose rows have the given number of strings. -/
def decode (bytes : List UInt8) (width : Nat) : Except RowError (List (List String)) :=
  if width = 0 then .error (.malformed .zeroWidth)
  else readRows (readStrings width) bytes

/-- The text form of rows: one line for each. -/
def formatRows (rows : List (List String)) : String :=
  String.join (rows.map fun row => Text.joinWith "\t" row ++ "\n")

end Dictionary

end TypedTables
