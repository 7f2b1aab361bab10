import TypedTables.Batch.Dump
import TypedTables.CommandLine.Arguments
import TypedTables.CommandLine.Help
import TypedTables.Manifest
import TypedTables.Settings.Load

/-!
# The generator

The command that runs batches, dumps artifacts and shows settings. Options that every command has
may stand before or behind its name; behind it they count more. An option right before the name,
with its value in an argument of its own, is looked at last, so that a page of help that is asked
for behind it is shown even if that value is wrong.
-/

namespace TypedTables.CommandLine

/-- What the generator is to do. A batch without names takes them from its manifest. -/
inductive Command where
  | dataTables (targets : Targets) (names : List String)
  | dictionaries (names : List String)
  | configs (names : List String)
  | dump (kind : TableKind) (name : String)
  | showSettings
deriving DecidableEq, Repr

/-- A call of the generator. -/
structure GeneratorCall where
  settings : Option Path
  /-- The least important lines of the log that are shown; none if no line is. -/
  verbosity : Option LogLevel
  command : Command
deriving DecidableEq, Repr

namespace Generator

def name : String := "tablegen"

def version : String := "0.1.0"

def named? {α : Type} (names : List (String × α)) (word : String) : Option α := names.lookup word

def verbosities : List (String × Option LogLevel) :=
  [("none", none), ("error", some .error), ("warn", some .warn), ("info", some .info),
    ("debug", some .debug), ("trace", some .trace)]

def targetNames : List (String × Targets) := [("data", .data), ("code", .code)]

def kindNames : List (String × TableKind) :=
  [("data-table", .dataTable), ("dictionary", .dictionary), ("config", .config)]

/-- The options that every command has. -/
def commonSwitches : List Switch :=
  [⟨"config", some 'c', true⟩, ⟨"log-level", none, true⟩, ⟨"help", some 'h', false⟩]

/-- Whether an option may have a value. -/
def acceptsValue (option value : String) : Bool :=
  if option = "config" then !value.isEmpty
  else if option = "log-level" then (verbosities.lookup value).isSome
  else (targetNames.lookup value).isSome

def anyWords (_ : Nat) (_ : String) : Bool := true

def noWords (_ : Nat) (_ : String) : Bool := false

/-- The name of a batch and then that of a table. -/
def kindAndName (i : Nat) (word : String) : Bool :=
  i == 1 || i == 0 && (kindNames.lookup word).isSome

def settingsEntry : HelpEntry :=
  ⟨some 'c', "--config <PATH>", s!"Configuration file [default: {Settings.fileName.text} when present]",
    none, []⟩

def verbosityEntry : HelpEntry :=
  ⟨none, "--log-level <LEVEL>", "Set the logging level for diagnostic output", some "info",
    verbosities.map fun v => ⟨v.1, if v.2.isNone then some "No logging output" else none⟩⟩

def targetsEntry : HelpEntry :=
  ⟨none, "--only <KIND>", "Produce only one kind of artifact", none,
    targetNames.map fun t => ⟨t.1, none⟩⟩

/-- A named command: what it is for, its options besides the common ones, the words it takes with
what is said of them, and what it means. -/
structure Subcommand where
  name : String
  about : String
  switches : List Switch
  takes : Nat → String → Bool
  arguments : List HelpEntry
  options : List HelpEntry
  meaning : Given → Option Command

def subcommands : List Subcommand := [
  { name := "data-tables"
    about := "Generate data files and row types for data tables"
    switches := [⟨"only", none, true⟩]
    takes := anyWords
    arguments := [.argument "[NAMES]..." "Table names [default: the data-table manifest]" []]
    options := [settingsEntry, targetsEntry, verbosityEntry]
    meaning := fun given =>
      let targets := ((given.options.lookup "only").bind (named? targetNames)).getD .both
      some (.dataTables targets given.words) },
  { name := "dictionaries"
    about := "Generate data files for dictionaries"
    switches := []
    takes := anyWords
    arguments := [.argument "[NAMES]..." "" []]
    options := [settingsEntry, verbosityEntry]
    meaning := fun given => some (.dictionaries given.words) },
  { name := "configs"
    about := "Generate data files for config tables"
    switches := []
    takes := anyWords
    arguments := [.argument "[NAMES]..." "" []]
    options := [settingsEntry, verbosityEntry]
    meaning := fun given => some (.configs given.words) },
  { name := "dump"
    about := "Decode a generated data file and print its rows"
    switches := []
    takes := kindAndName
    arguments := [.argument "<KIND>" "" (kindNames.map Prod.fst), .argument "<NAME>" "" []]
    options := [settingsEntry, verbosityEntry]
    meaning := fun given =>
      match given.words with
      | [kind, name] => (kindNames.lookup kind).map fun k => .dump k name
      | _ => none },
  { name := "show-config"
    about := "Print the effective configuration as TOML"
    switches := []
    takes := noWords
    arguments := []
    options := [settingsEntry, verbosityEntry]
    meaning := fun _ => some .showSettings }]

def helpName : String := "help"

def helpAbout : String := "Print this message or the help of the given subcommand(s)"

def mainPage : HelpPage where
  about := "Table schema compiler"
  usage := s!"{name} [OPTIONS] <COMMAND>"
  commands := subcommands.map (fun sub => (sub.name, sub.about)) ++ [(helpName, helpAbout)]
  arguments := []
  options := [settingsEntry, verbosityEntry]
  helps := true
  hasVersion := true

def helpCommandPage : HelpPage where
  about := helpAbout
  usage := s!"{name} {helpName} [COMMAND]..."
  commands := []
  arguments := [.argument "[COMMAND]..." "Print help for the subcommand(s)" []]
  options := []
  helps := false
  hasVersion := false

def Subcommand.page (sub : Subcommand) : HelpPage where
  about := sub.about
  usage := Text.joinWith " " ([Generator.name, sub.name, "[OPTIONS]"] ++ sub.arguments.map HelpEntry.form)
  commands := []
  arguments := sub.arguments
  options := sub.options
  helps := true
  hasVersion := false

/-- The help page of a command; the generator itself is the command of its own name. -/
def pageOf (command : String) : HelpPage :=
  if command = helpName then helpCommandPage
  else match subcommands.find? (·.name == command) with
    | some sub => sub.page
    | none => mainPage

/-- The command whose help page is asked for, if the words name one. -/
def helpTopic? (words : List String) : Option String :=
  match words with
  | [] => some name
  | [word] => if word = helpName || subcommands.any (·.name == word) then some word else none
  | _ => none

def parse (args : List String) : Except Refusal GeneratorCall := do
  let switches := commonSwitches ++ [⟨"version", some 'V', false⟩]
  let (before, word) := cutAtWord (tokenize switches args)
  let (closed, left) := cutOpenOption before
  let accepts : Acceptance := ⟨name, acceptsValue, noWords⟩
  let outer ← collect accepts ⟨[], [], []⟩ closed
  match word with
  | none => throw .misuse
  | some (word, rest) =>
    if word = helpName then
      throw (match helpTopic? rest with
        | some command => .help command false
        | none => .misuse)
    match subcommands.find? (·.name == word) with
    | none => throw .misuse
    | some sub =>
      let inner ← collect ⟨sub.name, acceptsValue, sub.takes⟩ ⟨[], [], []⟩
        (tokenize (commonSwitches ++ sub.switches) rest)
      let outer ← collect accepts outer left
      match sub.meaning inner with
      | none => throw .misuse
      | some command =>
        let common (option : String) : Option String :=
          (inner.options.lookup option).or (outer.options.lookup option)
        return {
          settings := (common "config").map Path.ofText
          verbosity := ((common "log-level").bind (named? verbosities)).getD (some .info)
          command }

/-- A number with zeros in front, so that it has at least `width` digits. -/
def padded (width n : Nat) : String :=
  let ds := Number.digits n
  String.ofList (List.replicate (width - ds.length) '0' ++ ds)

def timeText (year month day hour minute second millisecond : Nat) : String :=
  s!"{padded 4 year}-{padded 2 month}-{padded 2 day} " ++
    s!"{padded 2 hour}:{padded 2 minute}:{padded 2 second}.{padded 3 millisecond}"

/-- The outcome of a call that is not carried out. -/
def refused : Refusal → Outcome
  | .help command summary => ⟨0, (pageOf command).text summary, ""⟩
  | .version => ⟨0, s!"{name} {version}\n", ""⟩
  | .misuse => ⟨2, "", mainPage.text true⟩

/-- A line of the log as it is shown, nothing if it is not. Lines after the first are indented. -/
def shownLine (verbosity : Option LogLevel) (line : LogLine) : String :=
  match verbosity with
  | none => ""
  | some least =>
    if least.rank < line.level.rank then ""
    else
      let level := line.level.name ++ String.ofList (List.replicate (5 - line.level.name.length) ' ')
      let origin := if LogLevel.debug.rank ≤ least.rank then s!" {name}" else ""
      let message := Text.joinWith "\n    " (Text.fieldsOn '\n' line.message)
      s!"[{level}{origin}] {message}\n"

/-- What is said of an error that ends a command: the error, and its cause if that is another. -/
def fatalText (e : TableError) : String :=
  match e with
  | .file _ fault => s!"Error: {e.message}\n\nCaused by:\n    {fault.message}\n"
  | _ => s!"Error: {e.message}\n"

def reported (kind : String) (r : Report) : Outcome where
  status := if r.isSuccess then 0 else 1
  output := s!"{kind}: {r.summary}\n"
  errors := String.join (r.failed.map fun f => s!"{kind} '{f.name}': {f.error.message}\n")

variable {m : Type → Type} [Monad m] [FileSystem m]

/-- The given names, or those in a manifest if there are none. -/
def namesOr (manifest : Path) (names : List String) : Task m (List String) :=
  if names.isEmpty then Manifest.load manifest else return names

def carryOut (s : Settings) (timestamp : String) : Command → Task m Outcome
  | .dataTables targets names => do
    let names ← namesOr s.dataTables.manifest names
    return reported "data tables" (← DataTableJob.run ⟨s, .standard, targets, timestamp⟩ names)
  | .dictionaries names => do
    let names ← namesOr s.dictionaries.manifest names
    return reported "dictionaries" (← (DictionaryJob.dictionaries s).run names)
  | .configs names => do
    let names ← namesOr s.configs.manifest names
    return reported "configs" (← (DictionaryJob.configs s).run names)
  | .dump kind name => do
    return ⟨0, ← s.dump .standard kind name, ""⟩
  | .showSettings => return ⟨0, s.document, ""⟩

def run (directory : Path) (timestamp : String) (call : GeneratorCall) : m Outcome := do
  let work : Task m Outcome := do
    let s ← Settings.load directory call.settings
    carryOut s timestamp call.command
  match ← work.run with
  | .ok outcome => return outcome
  | .error e => return ⟨1, "", fatalText e⟩

end Generator

end TypedTables.CommandLine
