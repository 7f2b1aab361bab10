import TypedTables.Batch.Report
import TypedTables.Settings
import TypedTables.Table.Open

/-!
# Batches of data tables

For each table its artifact and the code of its row type, or one of them. A table that cannot be
opened, or whose names are refused, loses what earlier runs have left of either; after that the two
are made independently, and the one that fails leaves nothing behind.
-/

namespace TypedTables

open FileSystem (log discard replaceFile readText located ensureDirectory)

/-- What a batch of data tables makes. -/
inductive Targets where
  | data
  | code
  | both
deriving DecidableEq, Repr

def Targets.includesData : Targets → Bool
  | data | both => true
  | code => false

def Targets.includesCode : Targets → Bool
  | code | both => true
  | data => false

namespace Batch

variable {m : Type → Type} [Monad m] [FileSystem m]

/-- Work that leaves nothing at a path if it fails. -/
def orDiscard {α : Type} (p : Path) (work : Task m α) : Task m α :=
  tryCatch work fun e => do
    (discard p : m Unit)
    throw e

/-- Does work if it is asked for, and says how it ended. -/
def attempt (wanted : Bool) (work : Task m Unit) : Task m (Except TableError Unit) :=
  if wanted then ExceptT.lift work.run else return .ok ()

def writeArtifact (encoded : Except TableError (List UInt8)) (p : Path) : Task m Nat :=
  orDiscard p do
    let bytes ← ofExcept encoded
    replaceFile p bytes
    return bytes.length

def readTemplate (p : Option Path) : Task m String :=
  match p with
  | some p => located p (readText p)
  | none => return standardTemplate

/-- Tells the warnings about the names of a table; the other findings are an error. -/
def checkNames (name : String) (t : DataTable) : Task m Unit := do
  let found := (← ofExcept t.schema).lint
  for f in found do
    if f.cause.severity = .warning then
      (log ⟨.warn, s!"{name}: column {f.column}: {f.cause.message}"⟩ : m Unit)
  let errors := errorFindings found
  if !errors.isEmpty then throw (.identifier (.findings errors))

end Batch

/-- What a batch of data tables needs to know besides their names. -/
structure DataTableJob where
  settings : Settings
  types : Registry
  targets : Targets
  /-- What emitted code says about when it was made. -/
  timestamp : String

namespace DataTableJob

open Batch

variable {m : Type → Type} [Monad m] [FileSystem m] (job : DataTableJob)

def openTable (name : String) : Task m DataTable := do
  let s := job.settings
  let t ← DataTable.read (s.dataTables.sourcePath name) s.trimChars s.dataTables.layout job.types
  checkNames name t
  return t

def makeData (name : String) (t : DataTable) : Task m Unit := do
  let p := job.settings.dataTables.dataPath name
  let size ← writeArtifact t.encodeRows p
  (log ⟨.debug, s!"wrote {size} bytes to {p.text}"⟩ : m Unit)

def makeCode (name : String) (t : DataTable) : Task m Unit := do
  let p := job.settings.codePath name
  orDiscard p do
    let template ← readTemplate job.settings.code.template
    let code ← ofExcept (t.emit name template job.settings.emitOptions job.timestamp)
    replaceFile p (Wire.utf8 code)
  (log ⟨.debug, s!"wrote {p.text}"⟩ : m Unit)

/-- Removes what earlier runs have left of a table. -/
def discardAll (name : String) : m Unit := do
  if job.targets.includesData then discard (job.settings.dataTables.dataPath name)
  if job.targets.includesCode then discard (job.settings.codePath name)

/-- Makes what is asked for of one table. The first error is that of the table. -/
def process (name : String) : Task m Unit := do
  let t ← tryCatch (job.openTable name) fun e => do
    (job.discardAll name : m Unit)
    throw e
  let data ← attempt job.targets.includesData (job.makeData name t)
  let code ← attempt job.targets.includesCode (job.makeCode name t)
  if let (.error _, .error e) := (data, code) then
    (log ⟨.error, s!"{name}: code file also failed: {e.message}"⟩ : m Unit)
  ofExcept data
  ofExcept code

/-- Makes what is asked for of all tables, in directories that are made first. -/
def run (names : List String) : Task m Report := do
  if job.targets.includesData then ensureDirectory job.settings.dataTables.outputDirectory
  if job.targets.includesCode then ensureDirectory job.settings.code.directory
  (Batch.run "data table" job.process names : m Report)

end DataTableJob

end TypedTables
