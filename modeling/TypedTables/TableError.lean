import TypedTables.Schema.Lint
import TypedTables.File.Fault
import TypedTables.File.Path
import TypedTables.Toml.Fault

/-!
# Errors

What can go wrong between a source file and its artifacts, as causes; the wording of each is in
one function.
-/

namespace TypedTables

/-- The header rows of a table. -/
inductive HeaderRow where
  | name
  | type
  | comment
  | languageKeyword
deriving DecidableEq, Repr

def HeaderRow.label : HeaderRow → String
  | name => "name"
  | type => "type"
  | comment => "comment"
  | languageKeyword => "language keyword"

/-- What keeps a table from being set up. -/
inductive SetupFault where
  | ragged (width row found : Nat)
  | headerRow (header : HeaderRow) (row rowCount : Nat)
  | contentStart (row rowCount : Nat)
  | idColumnRange (column columnCount : Nat)
  | idColumnComment (column : Nat)
  | idColumnType (column : Nat) (keyword : String)
  | noIdColumn
  | unsupportedType (name keyword : String)
  | missingFile (path : Path)
  | unreadableFile (path : Path) (cause : FileFault)
  | badSettings (path : Path) (cause : Toml.Fault)
  | emptyNamespace
  | overwritesSources (batch : String)
  | emptyManifest (path : Path)
  | badManifest (path : Path) (remaining : Nat)
deriving DecidableEq, Repr

def SetupFault.message : SetupFault → String
  | ragged width row found =>
    s!"raw column count is '{width}', but row '{row}' has '{found}' columns"
  | headerRow header row rowCount =>
    s!"{header.label} row '{row}' >= raw row count '{rowCount}' is not allowed"
  | contentStart row rowCount =>
    s!"content start row '{row}' > raw row count '{rowCount}' is not allowed"
  | idColumnRange column columnCount =>
    s!"id column '{column}' >= raw column count '{columnCount}' is not allowed"
  | idColumnComment column => s!"id column '{column}' is a comment column"
  | idColumnType column keyword => s!"id column '{column}' must be int, found '{keyword}'"
  | noIdColumn => "table has no id column"
  | unsupportedType name keyword => s!"column '{name}' has unsupported type '{keyword}'"
  | missingFile path => s!"file '{path.text}' does not exist"
  | unreadableFile path cause => s!"file '{path.text}' cannot be read: {cause.message}"
  | badSettings path cause => s!"parsing configuration file '{path.text}': {cause.message}"
  | emptyNamespace => "code.namespace must not be empty"
  | overwritesSources batch => s!"{batch}: data files would overwrite their sources"
  | emptyManifest path => s!"manifest '{path.text}' lists no tables; generate text files first"
  | badManifest path remaining =>
    s!"manifest '{path.text}' is not a list of names: refused {remaining} characters before its end"

/-- A row or column that a grid does not have. -/
inductive IndexFault where
  | row (row : Nat)
  | column (column : Nat)
deriving DecidableEq, Repr

def IndexFault.message : IndexFault → String
  | row r => s!"raw row '{r}' is out of range"
  | column c => s!"raw column '{c}' is out of range"

/-- Column names that emitted code cannot have. -/
inductive NameFault where
  | findings (found : List Finding)
  | key (fault : KeyFault)
deriving DecidableEq, Repr

def NameFault.message : NameFault → String
  | findings found =>
    "; ".intercalate (found.map fun m => s!"column {m.column}: {m.cause.message}")
  | key fault => fault.message

/-- Why a table, a batch or a tool fails. -/
inductive TableError where
  | configuration (cause : SetupFault)
  | index (cause : IndexFault)
  | identifier (cause : NameFault)
  | conversion (row column : Nat) (cause : CellFault)
  | artifact (path : Path) (cause : RowError)
  | file (path : Path) (cause : FileFault)

def TableError.message : TableError → String
  | configuration cause => s!"Configuration: {cause.message}"
  | index cause => s!"Index: {cause.message}"
  | identifier cause => s!"Identifier: {cause.message}"
  | conversion row column cause => s!"Conversion at row {row}, column {column}: {cause.message}"
  | artifact path cause => s!"Artifact {path.text}: {cause.message}"
  | file path cause => s!"IO: {path.text}: {cause.message}"

end TypedTables
