import TypedTables.Batch.Dictionaries

/-!
# Dumps

The artifact of one table as text.
-/

namespace TypedTables

/-- The batches that a table can belong to. -/
inductive TableKind where
  | dataTable
  | dictionary
  | config
deriving DecidableEq, Repr

variable {m : Type → Type} [Monad m] [FileSystem m]

def DictionaryJob.dump (job : DictionaryJob) (name : String) : Task m String := do
  (← job.openTable name).dump (job.settings.dataPath name)

def Settings.dump (s : Settings) (types : Registry) (kind : TableKind) (name : String) :
    Task m String := do
  match kind with
  | .dataTable =>
    let t ← DataTable.read (s.dataTables.sourcePath name) s.trimChars s.dataTables.layout types
    t.dump (s.dataTables.dataPath name)
  | .dictionary => (DictionaryJob.dictionaries s).dump name
  | .config => (DictionaryJob.configs s).dump name

end TypedTables
