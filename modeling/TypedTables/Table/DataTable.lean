import TypedTables.Table.Sheet

/-!
# Data tables

Tables whose header declares a type for every column that is no comment, and whose rows have a
whole number as key. All that can be wrong with a header is found when the table is made.
-/

namespace TypedTables

/-- Where a data table has its header. Rows and columns count from zero. -/
structure DataTableLayout where
  nameRow : Nat := 1
  typeRow : Nat := 2
  /-- The row from which the type texts of emitted code are taken, if there is one. -/
  languageKeywordRow : Option Nat := none
  commentRow : Nat := 3
  contentStartRow : Nat := 4
  idColumn : Nat := 1
  /-- The cell that describes the table. -/
  summaryRow : Nat := 0
  summaryColumn : Nat := 1
deriving DecidableEq, Repr

/-- A grid with a sound header. `columnTypes` has the type of each column, none for comments. -/
structure DataTable where
  grid : Grid
  layout : DataTableLayout
  columnTypes : List (Option ColumnType)

namespace DataTable

def sheetOf (grid : Grid) (layout : DataTableLayout) : Sheet :=
  ⟨grid, layout.nameRow, layout.contentStartRow, some layout.idColumn⟩

/-- The type that the header declares for a column; none for a comment column. -/
def resolveColumn (grid : Grid) (layout : DataTableLayout) (types : Registry) (column : Nat) :
    Except TableError (Option ColumnType) := do
  let sheet := sheetOf grid layout
  if ← sheet.isCommentColumn column then return none
  let keyword ← grid.cell layout.typeRow column
  match types.resolve keyword with
  | none =>
    let name ← sheet.name column
    throw (.configuration (.unsupportedType name keyword))
  | some type =>
    if column = layout.idColumn ∧ type ≠ .builtin .int32 then
      throw (.configuration (.idColumnType column keyword))
    else return some type

/-- The data table in a grid: header rows first, then the id column, then the columns from left to
right. -/
def ofGrid (grid : Grid) (layout : DataTableLayout) (types : Registry) :
    Except TableError DataTable := do
  grid.checkHeaderRow .name layout.nameRow
  grid.checkHeaderRow .type layout.typeRow
  grid.checkHeaderRow .comment layout.commentRow
  if let some row := layout.languageKeywordRow then
    grid.checkHeaderRow .languageKeyword row
  grid.checkContentStart layout.contentStartRow
  if grid.columnCount ≤ layout.idColumn then
    throw (.configuration (.idColumnRange layout.idColumn grid.columnCount))
  if ← (sheetOf grid layout).isCommentColumn layout.idColumn then
    throw (.configuration (.idColumnComment layout.idColumn))
  let columnTypes ← (List.range grid.columnCount).mapM (resolveColumn grid layout types)
  return ⟨grid, layout, columnTypes⟩

def ofSource (source : String) (trimChars : List Char) (layout : DataTableLayout)
    (types : Registry) : Except TableError DataTable := do
  ofGrid (← Grid.ofSource source trimChars) layout types

variable (t : DataTable)

def sheet : Sheet := sheetOf t.grid t.layout

def typeName (column : Nat) : Except TableError String := t.grid.cell t.layout.typeRow column

/-- The type of a column; none for a comment column. -/
def declaredType (column : Nat) : Except TableError (Option ColumnType) := do
  t.sheet.checkColumn column
  return (t.columnTypes[column]?).join

def isBuiltinType (column : Nat) : Except TableError Bool := do
  return ((← t.declaredType column).map ColumnType.isBuiltin).getD false

/-- The type text of a column in emitted code: the cell of the language keyword row unless that is
empty, else the text of the type itself. -/
def languageKeyword (column : Nat) : Except TableError String := do
  let chosen ← match t.layout.languageKeywordRow with
    | some row => t.grid.cell row column
    | none => pure ""
  if !chosen.isEmpty then return chosen
  match ← t.declaredType column with
  | some type => return type.typeText
  | none => t.typeName column

def comment (column : Nat) : Except TableError String := t.grid.cell t.layout.commentRow column

/-- The description of the table, empty if the grid does not reach its cell. -/
def summary : String :=
  match t.grid.cell t.layout.summaryRow t.layout.summaryColumn with
  | .ok text => text
  | .error _ => ""

/-- The field of a column; none for a comment column. -/
def field? (column : Nat) : Except TableError (Option Field) := do
  match ← t.declaredType column with
  | none => return none
  | some type =>
    let role := if ← t.sheet.isIdColumn column then Role.id else Role.data
    return some ⟨column, ← t.sheet.name column, role, type, ← t.languageKeyword column,
      ← t.comment column⟩

def schema : Except TableError Schema := do
  let fields ← (List.range t.grid.columnCount).mapM t.field?
  return ⟨t.grid.columnCount, fields.filterMap id⟩

end DataTable

end TypedTables
