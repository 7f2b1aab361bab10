import TypedTables.Log
import TypedTables.TableError

/-!
# File systems

The file operations that batches are made of, and what is built from them: replacing a file in one
step, discarding one, and making a directory with all that it is in. Everything here works in any
monad that offers the operations, so the same code runs on a tree of files and on a real system.
-/

namespace TypedTables

/-- Monads with the operations of a file system and a log. -/
class FileSystem (m : Type → Type) where
  isFile : Path → m Bool
  isDirectory : Path → m Bool
  readBytes : Path → m (Except FileFault (List UInt8))
  /-- Puts bytes into a file that exists. -/
  writeBytes : Path → List UInt8 → m (Except FileFault Unit)
  /-- Makes an empty file with an unused name in a directory. -/
  createTemporary : Path → m (Except FileFault Path)
  /-- Moves a file in one step. A file that is there already is replaced. -/
  rename : Path → Path → m (Except FileFault Unit)
  /-- Removes a file. -/
  remove : Path → m (Except FileFault Unit)
  /-- Makes one directory. -/
  createDirectory : Path → m (Except FileFault Unit)
  log : LogLine → m Unit

abbrev Task (m : Type → Type) := ExceptT TableError m

namespace FileSystem

variable {m : Type → Type} [Monad m] [FileSystem m]

/-- An operation on a path, whose fault is an error of that path. -/
def located {α : Type} (p : Path) (operation : m (Except FileFault α)) : Task m α :=
  ExceptT.mk do
    return (← operation).mapError (TableError.file p)

def readText (p : Path) : m (Except FileFault String) := do
  match ← readBytes p with
  | .error fault => return .error fault
  | .ok bytes =>
    match Wire.ofUtf8? bytes with
    | some text => return .ok text
    | none => return .error .notText

/-- Puts bytes at a path in one step: they go into a file of their own first, which then takes the
path. On failure that file is removed, and what was at the path is as before. -/
def replaceFile (p : Path) (bytes : List UInt8) : Task m Unit := do
  let temporary ← located p.directory (createTemporary p.directory)
  let moved : Task m Unit := do
    located temporary (writeBytes temporary bytes)
    located p (rename temporary p)
  tryCatch moved fun e => do
    let _ ← (remove temporary : m (Except FileFault Unit))
    throw e

/-- Removes what an earlier run left at a path. That there is nothing is no failure; any other
failure is only told. -/
def discard (p : Path) : m Unit := do
  match ← remove p with
  | .ok () => log ⟨.debug, s!"removed stale {p.text}"⟩
  | .error .notFound => return
  | .error fault => log ⟨.warn, s!"cannot remove {p.text}: {fault.message}"⟩

/-- Makes a directory; one that is there already will do. -/
def createOrKeep (p : Path) : m (Except FileFault Unit) := do
  match ← createDirectory p with
  | .ok () => return .ok ()
  | .error fault => return if ← isDirectory p then .ok () else .error fault

/-- Makes a directory and the directories it is in, with at most `depth` of the latter. -/
def createAll (p : Path) : (depth : Nat) → m (Except FileFault Unit)
  | 0 => createOrKeep p
  | depth + 1 => do
    if p.isEmpty then return .ok ()
    match ← createOrKeep p with
    | .error .notFound =>
      match p.parent? with
      | none => return .error (.other "failed to create whole tree")
      | some parent =>
        match ← createAll parent depth with
        | .ok () => createOrKeep p
        | .error fault => return .error fault
    | result => return result

def ensureDirectory (p : Path) : Task m Unit :=
  located p (createAll p (p.pieces.length + 1))

end FileSystem

end TypedTables
