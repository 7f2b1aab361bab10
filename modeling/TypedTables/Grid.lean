import TypedTables.TableError
import TypedTables.Grid.Source

/-!
# Grids

The rectangular matrix of cells that a source text stands for.
-/

namespace TypedTables

/-- How many cells the first row has. -/
def firstWidth (rows : List (List String)) : Nat := (rows.head?.map List.length).getD 0

/-- Rows of cells, all of one width. -/
structure Grid where
  rows : List (List String)
  rectangular : ∀ row ∈ rows, row.length = firstWidth rows

namespace Grid

/-- The first row whose width is not the given one, with its number, counted from `i`. -/
def raggedRow? (width i : Nat) : List (List String) → Option (Nat × Nat)
  | [] => none
  | row :: rest => if row.length = width then raggedRow? width (i + 1) rest else some (i, row.length)

theorem forall_length_of_raggedRow? {width i : Nat} {rows : List (List String)}
    (h : raggedRow? width i rows = none) : ∀ row ∈ rows, row.length = width := by
  induction rows generalizing i with
  | nil => simp
  | cons row rest ih =>
    simp only [raggedRow?] at h
    split at h
    · next hw =>
      intro r hr
      rcases List.mem_cons.mp hr with rfl | hr
      · exact hw
      · exact ih h r hr
    · simp at h

def ofRows (rows : List (List String)) : Except TableError Grid :=
  match h : raggedRow? (firstWidth rows) 0 rows with
  | none => .ok ⟨rows, forall_length_of_raggedRow? h⟩
  | some (i, found) => .error (.configuration (.ragged (firstWidth rows) i found))

def ofSource (source : String) (trimChars : List Char) : Except TableError Grid :=
  ofRows (Source.parse source trimChars)

variable (g : Grid)

def rowCount : Nat := g.rows.length

def columnCount : Nat := firstWidth g.rows

def row (r : Nat) : Except TableError (List String) :=
  match g.rows[r]? with
  | some cells => .ok cells
  | none => .error (.index (.row r))

def cell (r c : Nat) : Except TableError String := do
  let cells ← g.row r
  match cells[c]? with
  | some text => return text
  | none => throw (.index (.column c))

/-- Header rows must be rows of the grid. -/
def checkHeaderRow (header : HeaderRow) (r : Nat) : Except TableError Unit :=
  if r < g.rowCount then .ok () else .error (.configuration (.headerRow header r g.rowCount))

/-- Content may start behind the last row, but not further down. -/
def checkContentStart (r : Nat) : Except TableError Unit :=
  if r ≤ g.rowCount then .ok () else .error (.configuration (.contentStart r g.rowCount))

end Grid

end TypedTables
