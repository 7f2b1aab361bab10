import TypedTables.Row.Composite
import TypedTables.Row.Fields
import TypedTables.Record.Rows

/-!
# A row type in full

The row type that the emitted code for a table of heroes defines, written out: its fields, the two
ways of reading it, and the accessors of its one collection.
-/

namespace TypedTables

/-- A row of the table of heroes. -/
structure HeroRow where
  id : Int32
  name : String
  level : UInt16
  hp : Int64
  speed : Single
  enabled : Bool
  type : UInt8
  position : Vector3
  skill1 : Int32
  skill2 : Int32
  skillItems : List (Int32 × Int32)
deriving DecidableEq, Repr

namespace HeroRow

def fillSkills (row : HeroRow) : HeroRow :=
  { row with skillItems := [(1, row.skill1), (2, row.skill2)] }

def cellAt {α : Type} [OfCell α] (column : Nat) : Scan α := do
  Scan.seek column
  Scan.cell

def scan : Scan HeroRow := do
  let id ← cellAt 1
  let name ← cellAt 3
  let level ← cellAt 4
  let hp ← cellAt 5
  let speed ← cellAt 6
  let enabled ← cellAt 7
  let type ← cellAt 8
  Scan.seek 9
  let position ← Scan.cellWith parseComposite
  let skill1 ← cellAt 10
  let skill2 ← cellAt 11
  return fillSkills ⟨id, name, level, hp, speed, enabled, type, position, skill1, skill2, []⟩

def parse (line : String) : Except RowError HeroRow :=
  match scan.run (RowFields.ofLine line ['"']) with
  | .ok row _ => .ok row
  | .error e _ => .error e

def read : Read HeroRow := do
  let id ← Wire.read
  let name ← Wire.read
  let level ← Wire.read
  let hp ← Wire.read
  let speed ← Wire.read
  let enabled ← Wire.read
  let type ← Wire.read
  let position ← Vector3.read
  let skill1 ← Wire.read
  let skill2 ← Wire.read
  return fillSkills ⟨id, name, level, hp, speed, enabled, type, position, skill1, skill2, []⟩

/-- The row in the bytes of one record, which must leave none. -/
def parseBytes (bytes : List UInt8) : Except RowError HeroRow :=
  match read.run (.ofBytes bytes) with
  | .error e _ => .error e
  | .ok row r =>
    if r.isAtEnd then .ok row
    else .error (.malformed (.trailingBytes (bytes.length - r.position)))

def skillCount (row : HeroRow) : Nat := row.skillItems.length

/-- The first skill with a key. -/
def skill (row : HeroRow) (key : Int32) : Except RowError Int32 :=
  match row.skillItems.find? (·.1 == key) with
  | some item => .ok item.2
  | none => .error (.lookup "get_skill" key)

def skillAt (row : HeroRow) (index : Nat) : Except RowError Int32 :=
  match row.skillItems[index]? with
  | some item => .ok item.2
  | none => .error (.range "get_skill_at" index)

end HeroRow

end TypedTables
