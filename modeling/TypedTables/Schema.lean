import TypedTables.ColumnType.Registry
import TypedTables.Row.Fields
import TypedTables.Record.Rows

/-!
# Schemas

The columns of a table that have values, in the order of their columns. Everything that is written
for a table follows this one list: records, the text of a row, and emitted code.
-/

namespace TypedTables

/-- What a column with values is for: the integer key of a row, or data. -/
inductive Role where
  | id
  | data
deriving DecidableEq, Repr

/-- A column with values. -/
structure Field where
  column : Nat
  name : String
  role : Role
  type : ColumnType
  /-- The type's text in emitted code, which a table may choose for itself. -/
  keyword : String
  comment : String

def Field.ident (f : Field) : String := Naming.identifier (Naming.snakeCase f.name)

/-- The columns of a table that have values. -/
structure Schema where
  columnCount : Nat
  fields : List Field

namespace Schema

/-- The first id field. -/
def idField? (s : Schema) : Option Field := s.fields.find? (·.role == .id)

def dataFields (s : Schema) : List Field := s.fields.filter (·.role == .data)

/-- Reads one record: every field in order. -/
def readRow (s : Schema) : Read (List Value) := s.fields.mapM fun f => f.type.read

def scanField (f : Field) : Scan Value := do
  Scan.seek f.column
  let text ← Scan.field
  Scan.ofExcept ((f.type.parse text).mapError (RowError.conversion f.column))

def parseLine (s : Schema) (trimChars : List Char) (line : String) :
    Except RowError (List Value) :=
  match (s.fields.mapM scanField).run (RowFields.ofLine line trimChars) with
  | .ok values _ => .ok values
  | .error e _ => .error e

def readNumberedRow (s : Schema) (k : Nat) : Read (List Value) := fun r =>
  match s.readRow r with
  | .error (.malformed cause) next => .error (.malformed (.inRecord k r.position cause)) next
  | result => result

def decode (s : Schema) (bytes : List UInt8) : Except RowError (List (List Value)) :=
  readRowsFrom s.readNumberedRow 0 (.ofBytes bytes)

/-- The text form of records: the field names, then one line for each record. -/
def formatRows (s : Schema) (rows : List (List Value)) : String :=
  let line (cells : List String) : String := Text.joinWith "\t" cells ++ "\n"
  line (s.fields.map Field.name) ++ String.join (rows.map fun row => line (row.map Value.text))

end Schema

end TypedTables
