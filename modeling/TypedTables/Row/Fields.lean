import TypedTables.Wire.Reader
import TypedTables.Text.Blank

/-!
# Fields of a text row

One line of a table, cut at tabs, with a cursor that names the field to be read next. Reading a
field moves the cursor on even if its content turns out to be faulty; a field that is not there
leaves the cursor where it is.
-/

namespace TypedTables

/-- The fields of a line and the number of the one to be read next. -/
structure RowFields where
  fields : List String
  next : Nat

/-- The cells of one line: what stands between tabs, without the given characters at its ends. -/
def lineCells (trimChars : List Char) (line : String) : List String :=
  (Text.fieldsOn '\t' line).map (Text.stripChars trimChars)

/-- The fields of a line, with the cursor on the first. -/
def RowFields.ofLine (line : String) (trimChars : List Char) : RowFields :=
  ⟨lineCells trimChars line, 0⟩

/-- Reading fields: it ends with a value or an error, and in both cases with a cursor. -/
abbrev Scan := EStateM RowError RowFields

namespace Scan

def seek (field : Nat) : Scan Unit := fun row => .ok () { row with next := field }

/-- The next field. -/
def field : Scan String := fun row =>
  match row.fields[row.next]? with
  | some text => .ok text { row with next := row.next + 1 }
  | none => .error (.malformed (.missingField row.fields.length)) row

/-- The number of the next field. -/
def position : Scan Nat := fun row => .ok row.next row

def ofExcept {α : Type} (result : Except RowError α) : Scan α := fun row =>
  match result with
  | .ok v => .ok v row
  | .error e => .error e row

/-- The value of the next field. -/
def cell {α : Type} [OfCell α] : Scan α := do
  let number ← position
  let text ← field
  ofExcept ((ofCell text).mapError (RowError.conversion number))

/-- Puts the number of a field into a conversion error; other errors stay as they are. -/
def located (field : Nat) : RowError → RowError
  | .conversion _ cause => .conversion field cause
  | e => e

/-- The value of the next field, read by a given function. -/
def cellWith {α : Type} (parse : String → Except RowError α) : Scan α := do
  let number ← position
  let text ← field
  ofExcept ((parse text).mapError (located number))

end Scan

end TypedTables
