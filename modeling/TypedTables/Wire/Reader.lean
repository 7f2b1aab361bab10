import TypedTables.Cell

/-!
# Reading a record

A reader is a position in a run of bytes together with the bytes from there on. Reading moves it
forward, also when reading fails: a failure leaves the reader where it gave up, and one may go on
from there.
-/

namespace TypedTables

/-- What is wrong with bytes or with the text of a row, apart from the content of a field. -/
inductive Malformation where
  | integerOverflow (bits position : Nat)
  | tooManyGroups (bits position : Nat)
  | lengthBeyondEnd (position : Nat)
  | invalidText (position : Nat)
  | missingField (found : Nat)
  | trailingBytes (count : Nat)
  | zeroWidth
  | noProgress
  | inRecord (record start : Nat) (cause : Malformation)
  | other (text : String)

def Malformation.message : Malformation → String
  | integerOverflow bits position =>
    s!"7-bit encoded integer overflows {bits} bits at byte {position}"
  | tooManyGroups bits position =>
    s!"too many bytes in a 7-bit encoded {bits}-bit integer at byte {position}"
  | lengthBeyondEnd position => s!"string length exceeds remaining bytes at byte {position}"
  | invalidText position => s!"string is not valid UTF-8 at byte {position}"
  | missingField found => s!"row has {found} fields, expected more"
  | trailingBytes count => s!"{count} trailing bytes after row"
  | zeroWidth => "dictionary width must be positive"
  | noProgress => "record takes no bytes"
  | inRecord record start cause => s!"record {record} at byte {start}: {cause.message}"
  | other text => text

/-- Why a row cannot be read, or an accessor of a row has no answer. -/
inductive RowError where
  | lookup (accessor : String) (key : Int32)
  | range (accessor : String) (index : Nat)
  | conversion (field : Nat) (cause : CellFault)
  | malformed (cause : Malformation)
  | endOfInput

def RowError.message : RowError → String
  | lookup accessor key => s!"{accessor} with invalid id '{Number.intText key.toInt}'"
  | range accessor index => s!"{accessor} with invalid index '{index}'"
  | conversion field cause => s!"Conversion: field {field}: {cause.message}"
  | malformed cause => s!"Malformed: {cause.message}"
  | endOfInput => "IO: failed to fill whole buffer"

/-- A position in a run of bytes and the bytes from there on. -/
structure Reader where
  position : Nat
  rest : List UInt8
deriving DecidableEq, Repr

def Reader.ofBytes (bytes : List UInt8) : Reader := ⟨0, bytes⟩

/-- Whether no byte is left. -/
def Reader.isAtEnd (r : Reader) : Bool := r.rest.isEmpty

/-- The reader behind the next `n` bytes. -/
def Reader.advance (r : Reader) (n : Nat) : Reader := ⟨r.position + n, r.rest.drop n⟩

/-- Reading: it ends with a value or an error, and in both cases with a reader. -/
abbrev Read := EStateM RowError Reader

namespace Read

def malformed {α : Type} (cause : Nat → Malformation) : Read α :=
  fun r => .error (.malformed (cause r.position)) r

/-- The next byte. -/
def byte : Read UInt8 := fun r =>
  match r.rest with
  | [] => .error .endOfInput r
  | b :: _ => .ok b (r.advance 1)

/-- The next `n` bytes. If there are fewer, the reader is left at the end. -/
def bytes (n : Nat) : Read (List UInt8) := fun r =>
  if n ≤ r.rest.length then .ok (r.rest.take n) (r.advance n)
  else .error .endOfInput (r.advance r.rest.length)

end Read

end TypedTables
