import TypedTables.CommandLine.Generator

/-!
# The linter

The command that says what is wrong with the names in the headers of data tables.
-/

namespace TypedTables.CommandLine

/-- A call of the linter. -/
structure LinterCall where
  settings : Option Path
  /-- Whether findings are written for people, not one a line. -/
  forPeople : Bool
  files : List Path
deriving DecidableEq, Repr

namespace Linter

def name : String := "lint_tables"

def switches : List Switch :=
  [⟨"config", some 'c', true⟩, ⟨"human", some 'H', false⟩, ⟨"help", some 'h', false⟩,
    ⟨"version", some 'V', false⟩]

/-- Paths must not be empty. -/
def accepts : Acceptance := ⟨name, fun _ value => !value.isEmpty, fun _ word => !word.isEmpty⟩

/-- The call that arguments make. There must be a file. -/
def parse (args : List String) : Except Refusal LinterCall := do
  let given ← collect accepts ⟨[], [], []⟩ (tokenize switches args)
  if given.words.isEmpty then throw .misuse
  return {
    settings := (given.options.lookup "config").map Path.ofText
    forPeople := given.flags.contains "human"
    files := given.words.map Path.ofText }

def page : HelpPage where
  about := "Lint data-table column names"
  usage := s!"{name} [OPTIONS] <FILES>..."
  commands := []
  arguments := [.argument "<FILES>..." "" []]
  options := [Generator.settingsEntry, ⟨some 'H', "--human", "Human-readable output", none, []⟩]
  helps := true
  hasVersion := true

/-- The outcome of a call that is not carried out. -/
def refused : Refusal → Outcome
  | .help _ summary => ⟨0, page.text summary, ""⟩
  | .version => ⟨0, s!"{name} {Generator.version}\n", ""⟩
  | .misuse => ⟨2, "", page.text true⟩

def severityName : Severity → String
  | .error => "error"
  | .warning => "warning"

def findingText (forPeople : Bool) (file : Path) (f : Finding) : String :=
  if forPeople then
    s!"  {file.text} column {f.column} ({f.name}): {f.cause.message}\n    rule: {f.cause.rule}\n"
  else
    s!"{file.text}:{f.column}: {severityName f.cause.severity}: {f.cause.message} " ++
      s!"[{f.cause.rule}]\n"

/-- What is known of a file: its findings, or why it has none. -/
abbrev Verdict := Path × Except TableError (List Finding)

def allFindings (verdicts : List Verdict) : List Finding :=
  verdicts.flatMap fun v => match v.2 with
    | .ok found => found
    | .error _ => []

def verdictText (forPeople : Bool) (v : Verdict) : String :=
  match v.2 with
  | .ok found => String.join (found.map (findingText forPeople v.1))
  | .error _ => ""

/-- What is said of a file that could not be checked. -/
def failureText (v : Verdict) : String :=
  match v.2 with
  | .ok _ => ""
  | .error e => s!"{v.1.text}: {e.message}\n"

/-- What is said of all files. The status is that of failure if a file could not be checked or has
an error. -/
def reported (forPeople : Bool) (verdicts : List Verdict) : Outcome :=
  let found := allFindings verdicts
  let errors := (errorFindings found).length
  let failed := verdicts.any fun v => match v.2 with
    | .ok _ => false
    | .error _ => true
  let warnings := found.length - errors
  let closing :=
    if found.isEmpty then "" else s!"lint: {errors} error(s), {warnings} warning(s)\n"
  { status := if failed || 0 < errors then 1 else 0
    output := String.join (verdicts.map (verdictText forPeople))
    errors := String.join (verdicts.map failureText) ++ closing }

variable {m : Type → Type} [Monad m] [FileSystem m]

def check (s : Settings) (file : Path) : Task m (List Finding) := do
  let t ← DataTable.read file s.trimChars s.dataTables.layout .standard
  return (← ofExcept t.schema).lint

def run (directory : Path) (call : LinterCall) : m Outcome := do
  match ← (Settings.load directory call.settings : Task m Settings).run with
  | .error e => return ⟨1, "", Generator.fatalText e⟩
  | .ok s =>
    let verdicts ← call.files.mapM fun file => do
      return (file, ← (check s file : Task m (List Finding)).run)
    return reported call.forPeople verdicts

end Linter

end TypedTables.CommandLine
