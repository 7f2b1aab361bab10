import TypedTables.Grid

/-!
# Sheets

A grid together with what its header says: which row names the columns, where the content starts,
and which column, if any, holds the key of a row. Rows and columns that carry a number sign are
comments.
-/

namespace TypedTables

def commentMark : Char := '#'

/-- What a column is for. -/
inductive ColumnKind where
  | comment
  | id
  | data
deriving DecidableEq, Repr

/-- A grid with the places of its header. -/
structure Sheet where
  grid : Grid
  nameRow : Nat
  contentStart : Nat
  idColumn : Option Nat

namespace Sheet

variable (s : Sheet)

def rowCount : Nat := s.grid.rowCount

def columnCount : Nat := s.grid.columnCount

def name (column : Nat) : Except TableError String := s.grid.cell s.nameRow column

def value (row column : Nat) : Except TableError String := s.grid.cell row column

/-- Whether the first cell of a row starts with the comment mark. -/
def isCommentRow (row : Nat) : Except TableError Bool := do
  let cells ← s.grid.row row
  return (cells.headD "").toList.head? == some commentMark

/-- Whether a column has no name, or one with the comment mark in it. -/
def isCommentColumn (column : Nat) : Except TableError Bool := do
  let name ← s.name column
  return name.isEmpty || name.toList.contains commentMark

/-- Columns must be columns of the grid. -/
def checkColumn (column : Nat) : Except TableError Unit :=
  if column < s.columnCount then .ok () else .error (.index (.column column))

def isIdColumn (column : Nat) : Except TableError Bool := do
  s.checkColumn column
  return s.idColumn == some column

def columnKind (column : Nat) : Except TableError ColumnKind := do
  if ← s.isCommentColumn column then return .comment
  if ← s.isIdColumn column then return .id
  return .data

/-- The rows of content from row `r` on, `left` rows at most, without comment rows. -/
def contentRowsFrom (r : Nat) : (left : Nat) → Except TableError (List Nat)
  | 0 => .ok []
  | left + 1 => do
    let comment ← s.isCommentRow r
    let rest ← contentRowsFrom (r + 1) left
    return if comment then rest else r :: rest

/-- The rows of content in ascending order, without comment rows. -/
def contentRows : Except TableError (List Nat) :=
  s.contentRowsFrom s.contentStart (s.rowCount - s.contentStart)

end Sheet

end TypedTables
