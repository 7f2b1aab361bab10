import TypedTables.RowType.Call
import TypedTables.TableError

/-!
# Row types

The type that is emitted for the rows of a table: what it stores, how it is read from bytes and
from text, and which entries its collections have. This is the content of the emitted code; its
text is made elsewhere.
-/

namespace TypedTables

/-- How an accessor hands out a value. -/
inductive Handing where
  | copy
  | text
  | reference
deriving DecidableEq, Repr

/-- Values whose type text is another than their type's own are handed out by reference, strings as
text, and others as their type says. -/
def Handing.of (type : ColumnType) (keyword : String) : Handing :=
  if keyword ≠ type.typeText then .reference
  else if type = .builtin .string then .text
  else if type.copies then .copy
  else .reference

/-- A collection of a row type: its entries are keys with the identifiers of fields. -/
structure RowGroup where
  stem : String
  keyword : String
  handing : Handing
  entries : List (Int32 × String)

/-- Assigning to a field what a call reads. A chosen type text needs a conversion. -/
structure Assignment (Call : Type) where
  ident : String
  call : Call
  converts : Bool

/-- The type emitted for the rows of a table. -/
structure RowType where
  properties : List Field
  fromText : List (Assignment TextCall)
  fromBytes : List (Assignment ReaderCall)
  groups : List RowGroup

namespace RowType

/-- The group of a collection. Its entries are the fields in the collection's columns. -/
def groupOf (s : Schema) (c : Collection) : RowGroup where
  stem := Naming.snakeCase c.name
  keyword := c.keyword
  handing := Handing.of c.type c.keyword
  entries := c.items.filterMap fun item =>
    (s.fields.find? (·.column == item.column)).map fun f => (item.key, f.ident)

/-- The fields in the order in which they are assigned, the id first, each with its call. -/
def assignments {Call : Type} (call : Field → Call) (s : Schema) (key : Field) :
    List (Assignment Call) :=
  ⟨"id", call key, false⟩ ::
    s.dataFields.map fun f => ⟨f.ident, call f, f.keyword != f.type.typeText⟩

def textAssignments (space : String) (s : Schema) (key : Field) : List (Assignment TextCall) :=
  assignments (fun f => .ofType space f.column f.type) s key

def readerAssignments (space : String) (s : Schema) (key : Field) : List (Assignment ReaderCall) :=
  assignments (fun f => .ofType space f.type) s key

/-- Reads one record: every call in order, each for the field that is assigned. -/
def readRecord (calls : List (Assignment ReaderCall)) : Read (List (String × Value)) :=
  calls.mapM fun a => do return (a.ident, ← a.call.run)

/-- The row type of a schema: the id first, then the data fields in order. -/
def ofSchema (space : String) (s : Schema) : Except TableError RowType := do
  let collections ← s.collections.mapError fun fault => .identifier (.key fault)
  match s.idField? with
  | none => throw (.configuration .noIdColumn)
  | some key =>
    return {
      properties := s.dataFields
      fromText := textAssignments space s key
      fromBytes := readerAssignments space s key
      groups := collections.map (groupOf s) }

end RowType

namespace RowGroup

variable (g : RowGroup)

def itemsName : String := g.stem ++ "_items"

def countName : String := g.stem ++ "_count"

def entryName : String := "get_" ++ g.stem

def entryAtName : String := "get_" ++ g.stem ++ "_at"

end RowGroup

namespace RowType

variable (t : RowType)

def fieldNames : List String :=
  "id" :: (t.properties.map Field.ident ++ t.groups.map RowGroup.itemsName)

def methodNames : List String :=
  ["id", "parse_data_row", "parse_data_row_bytes", "read_data_row", "generate_property_array"] ++
    (t.properties.map Field.ident ++
      t.groups.flatMap fun g => [g.countName, g.entryName, g.entryAtName])

end RowType

end TypedTables
