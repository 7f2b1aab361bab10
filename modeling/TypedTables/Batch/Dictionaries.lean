import TypedTables.Batch.DataTables

/-!
# Batches of dictionaries

Dictionaries and config tables are batches of one kind with different settings. A table that cannot
be opened keeps what earlier runs have left of it.
-/

namespace TypedTables

/-- What a batch of dictionaries needs to know besides their names. -/
structure DictionaryJob where
  /-- What a table of the batch is called. -/
  kind : String
  trimChars : List Char
  settings : BatchSettings DictionaryLayout

namespace DictionaryJob

def dictionaries (s : Settings) : DictionaryJob := ⟨"dictionary", s.trimChars, s.dictionaries⟩

def configs (s : Settings) : DictionaryJob := ⟨"config", s.trimChars, s.configs⟩

variable {m : Type → Type} [Monad m] [FileSystem m] (job : DictionaryJob)

def openTable (name : String) : Task m Dictionary :=
  Dictionary.read (job.settings.sourcePath name) job.trimChars job.settings.layout

def process (name : String) : Task m Unit := do
  let d ← job.openTable name
  let _ ← Batch.writeArtifact d.encodeRows (job.settings.dataPath name)

/-- Makes the artifacts of all tables, in a directory that is made first. -/
def run (names : List String) : Task m Report := do
  FileSystem.ensureDirectory job.settings.outputDirectory
  (Batch.run job.kind job.process names : m Report)

end DictionaryJob

end TypedTables
