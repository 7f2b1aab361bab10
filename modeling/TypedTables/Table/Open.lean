import TypedTables.File.System
import TypedTables.Table.Artifact

/-!
# Opening tables

Tables from source files, and the text of their artifacts.
-/

namespace TypedTables

open FileSystem (isFile readText readBytes located)

variable {m : Type → Type} [Monad m] [FileSystem m]

def Grid.read (p : Path) (trimChars : List Char) : Task m Grid := do
  if !(← (isFile p : m Bool)) then throw (.configuration (.missingFile p))
  match ← (readText p : m (Except FileFault String)) with
  | .ok source => ofExcept (Grid.ofSource source trimChars)
  | .error fault => throw (.configuration (.unreadableFile p fault))

def DataTable.read (p : Path) (trimChars : List Char) (layout : DataTableLayout)
    (types : Registry) : Task m DataTable := do
  ofExcept (DataTable.ofGrid (← Grid.read p trimChars) layout types)

def Dictionary.read (p : Path) (trimChars : List Char) (layout : DictionaryLayout) :
    Task m Dictionary := do
  ofExcept (Dictionary.ofGrid (← Grid.read p trimChars) layout)

/-- The text of the artifact at a path, which must be one of this table. -/
def DataTable.dump (t : DataTable) (p : Path) : Task m String := do
  let schema ← ofExcept t.schema
  let bytes ← located p (readBytes p)
  let rows ← ofExcept ((schema.decode bytes).mapError (TableError.artifact p))
  return schema.formatRows rows

/-- The text of the artifact at a path, which must be one of this dictionary. -/
def Dictionary.dump (d : Dictionary) (p : Path) : Task m String := do
  let width ← ofExcept d.width
  let bytes ← located p (readBytes p)
  let rows ← ofExcept ((Dictionary.decode bytes width).mapError (TableError.artifact p))
  return Dictionary.formatRows rows

end TypedTables
