import TypedTables.RowType.Template
import TypedTables.Table.Dictionary

/-!
# Settings

Where the tables of each batch are found, how their headers are laid out, where artifacts go, and
what emitted code depends on.
-/

namespace TypedTables

/-- The settings of one batch. -/
structure BatchSettings (Layout : Type) where
  sourceDirectory : Path
  outputDirectory : Path
  /-- The file that lists the names of the tables. -/
  manifest : Path
  sourceExtension : String
  dataExtension : String
  layout : Layout
deriving DecidableEq, Repr

namespace BatchSettings

variable {Layout : Type}

def inDirectory (directory : String) (layout : Layout) : BatchSettings Layout where
  sourceDirectory := ⟨[directory]⟩
  outputDirectory := ⟨[directory]⟩
  manifest := ⟨[directory, "collection.json"]⟩
  sourceExtension := "txt"
  dataExtension := "bytes"
  layout := layout

variable (s : BatchSettings Layout)

def sourcePath (name : String) : Path :=
  s.sourceDirectory.join (.ofText s!"{name}.{s.sourceExtension}")

def dataPath (name : String) : Path :=
  s.outputDirectory.join (.ofText s!"{name}.{s.dataExtension}")

def overwritesSources : Bool :=
  s.sourceDirectory.same s.outputDirectory && s.sourceExtension == s.dataExtension

/-- Whether two settings have the same layout and extensions and lead to the same places. -/
def agrees [DecidableEq Layout] (other : BatchSettings Layout) : Bool :=
  s.sourceDirectory.same other.sourceDirectory && s.outputDirectory.same other.outputDirectory &&
    s.manifest.same other.manifest && s.sourceExtension == other.sourceExtension &&
    s.dataExtension == other.dataExtension && s.layout == other.layout

end BatchSettings

/-- The settings of emitted code. -/
structure CodeSettings where
  directory : Path := ⟨["src", "data_rows"]⟩
  /-- The file of the template, if it is not the standard one. -/
  template : Option Path := none
  space : String := "tablegen::runtime"
  classStart : String := "DR"
deriving DecidableEq, Repr

/-- Whether two settings have the same texts and lead to the same places. -/
def CodeSettings.agrees (s other : CodeSettings) : Bool :=
  s.directory.same other.directory && s.template.map Path.steps == other.template.map Path.steps &&
    s.space == other.space && s.classStart == other.classStart

/-- All settings. Config tables are dictionaries with a row for a title above their names. -/
structure Settings where
  /-- The characters that are removed at the ends of a cell. -/
  trimChars : List Char := ['"']
  dataTables : BatchSettings DataTableLayout := .inDirectory "data_tables" {}
  dictionaries : BatchSettings DictionaryLayout := .inDirectory "dictionaries" {}
  configs : BatchSettings DictionaryLayout := .inDirectory "configs" ⟨1, 2⟩
  code : CodeSettings := {}
deriving DecidableEq, Repr

namespace Settings

/-- The settings that hold where no others are given. -/
def standard : Settings := {}

variable (s : Settings)

def emitOptions : EmitOptions := ⟨s.code.space, s.code.classStart, s.trimChars⟩

def codePath (name : String) : Path :=
  s.code.directory.join (.ofText (Naming.fileName (Naming.className s.code.classStart name)))

/-- Whether two settings have the same texts and numbers and lead to the same places. -/
def agrees (other : Settings) : Bool :=
  s.trimChars == other.trimChars && s.dataTables.agrees other.dataTables &&
    s.dictionaries.agrees other.dictionaries && s.configs.agrees other.configs &&
    s.code.agrees other.code

/-- Settings must name a namespace, and no batch may overwrite its sources. -/
def check : Except SetupFault Unit := do
  if (Text.trim s.code.space).isEmpty then throw .emptyNamespace
  if s.dataTables.overwritesSources then throw (.overwritesSources "data_tables")
  if s.dictionaries.overwritesSources then throw (.overwritesSources "dictionaries")
  if s.configs.overwritesSources then throw (.overwritesSources "configs")

end Settings

end TypedTables
