import TypedTables.Table.Sheet

/-!
# Dictionaries

Tables of text: a row of names and, below it, rows of strings.
-/

namespace TypedTables

/-- Where a dictionary has its header. -/
structure DictionaryLayout where
  nameRow : Nat := 0
  contentStartRow : Nat := 1
deriving DecidableEq, Repr

/-- A grid with a sound header. -/
structure Dictionary where
  grid : Grid
  layout : DictionaryLayout

namespace Dictionary

def ofGrid (grid : Grid) (layout : DictionaryLayout) : Except TableError Dictionary := do
  grid.checkHeaderRow .name layout.nameRow
  grid.checkContentStart layout.contentStartRow
  return ⟨grid, layout⟩

def ofSource (source : String) (trimChars : List Char) (layout : DictionaryLayout) :
    Except TableError Dictionary := do
  ofGrid (← Grid.ofSource source trimChars) layout

variable (d : Dictionary)

def sheet : Sheet := ⟨d.grid, d.layout.nameRow, d.layout.contentStartRow, none⟩

/-- The columns that are no comments. -/
def columns : Except TableError (List Nat) :=
  (List.range d.grid.columnCount).filterM fun column => do
    return !(← d.sheet.isCommentColumn column)

/-- How many columns are no comments. -/
def width : Except TableError Nat :=
  (List.range d.grid.columnCount).foldlM (fun count column => do
    if ← d.sheet.isCommentColumn column then return count
    return count + 1) 0

end Dictionary

end TypedTables
