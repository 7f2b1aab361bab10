import TypedTables.Text.Blank
import TypedTables.Text.Split

/-!
# Source text of a table

Tab-delimited text, read in one pass: a tab ends a cell, a line end ends a cell and its row. A line
end at the very end of the text starts no further row, and a byte order mark at its start is
ignored.
-/

namespace TypedTables.Source

/-- A cell that was collected in reverse, without the given characters at its ends. -/
def closeCell (trimChars cell : List Char) : String :=
  Text.stripChars trimChars (String.ofList cell.reverse)

/-- Reads rows. `cell` holds the characters of the present cell and `row` the finished cells of the
present row, both in reverse. -/
def scan (trimChars cell : List Char) (row : List String) : List Char → List (List String)
  | [] =>
    if cell.isEmpty && row.isEmpty then [] else [(closeCell trimChars cell :: row).reverse]
  | '\t' :: rest => scan trimChars [] (closeCell trimChars cell :: row) rest
  | '\r' :: '\n' :: rest => (closeCell trimChars cell :: row).reverse :: scan trimChars [] [] rest
  | c :: rest =>
    if c = '\n' ∨ c = '\r' then
      (closeCell trimChars cell :: row).reverse :: scan trimChars [] [] rest
    else scan trimChars (c :: cell) row rest

def parse (source : String) (trimChars : List Char) : List (List String) :=
  scan trimChars [] [] (Text.dropMark source.toList)

end TypedTables.Source
