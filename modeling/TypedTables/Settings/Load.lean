import TypedTables.File.System
import TypedTables.Settings.Document

/-!
# Loading settings

Settings come from the file that is named, or from a file with a fixed name in a directory. If
that one is not there, the standard holds.
-/

namespace TypedTables.Settings

/-- The file that is looked for if none is named. -/
def fileName : Path := ⟨["tablegen.toml"]⟩

def ofFile (p : Path) (document : String) : Except TableError Settings := do
  let s ← (ofDocument document).mapError fun fault => .configuration (.badSettings p fault)
  s.check.mapError TableError.configuration
  return s

variable {m : Type → Type} [Monad m] [FileSystem m]

/-- The settings in the file that is named, if one is, else in the given directory. -/
def load (directory : Path) (named : Option Path) : Task m Settings := do
  let p := named.getD (directory.join fileName)
  match ← (FileSystem.readText p : m (Except FileFault String)) with
  | .ok document => ofExcept (ofFile p document)
  | .error fault =>
    if named.isNone ∧ fault = .notFound then return standard
    else throw (.file p fault)

end TypedTables.Settings
