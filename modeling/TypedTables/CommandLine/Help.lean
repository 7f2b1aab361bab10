import TypedTables.Text.Blank
import TypedTables.Text.Split

/-!
# Help pages

What a command says of itself: its purpose, how it is called, and what it can be given. A page comes
in two forms. The summary puts an argument and its description on one line, in two columns; in full,
the description stands below and choices are explained one by one. A page without such choices has
the first form only.
-/

namespace TypedTables.CommandLine

/-- A word that can be chosen. What it means is said only if it is not plain. -/
structure Choice where
  name : String
  meaning : Option String

/-- An argument or an option on a help page. -/
structure HelpEntry where
  letter : Option Char
  /-- How it is written. -/
  form : String
  about : String
  preset : Option String
  choices : List Choice

/-- What a command says of itself. -/
structure HelpPage where
  about : String
  usage : String
  /-- The commands that it has, and what they are for. -/
  commands : List (String × String)
  arguments : List HelpEntry
  options : List HelpEntry
  /-- Whether it can be asked for help. -/
  helps : Bool
  /-- Whether it can be asked for its version. -/
  hasVersion : Bool

/-- Texts with blanks behind them, all of the width of the longest. -/
def padAll (texts : List String) : List String :=
  let width := (texts.map String.length).foldl max 0
  texts.map fun text => text ++ String.ofList (List.replicate (width - text.length) ' ')

namespace Choice

/-- The choices as lines of a list, if one of them is explained. -/
def explained (choices : List Choice) : List String :=
  if choices.any (·.meaning.isSome) then
    let labels := padAll (choices.map fun c => c.name ++ ":")
    (choices.zip labels).map fun (c, label) => match c.meaning with
      | some meaning => s!"- {label} {meaning}"
      | none => s!"- {c.name}"
  else []

end Choice

namespace HelpEntry

def argument (form about : String) (choices : List String) : HelpEntry :=
  ⟨none, form, about, none, choices.map fun name => ⟨name, none⟩⟩

/-- The remarks on an entry: its preset, and its choices unless they are explained. -/
def remarks (e : HelpEntry) (explains : Bool) : List String :=
  let names := Text.joinWith ", " (e.choices.map Choice.name)
  (e.preset.map fun preset => s!"[default: {preset}]").toList ++
    if e.choices.isEmpty || explains then [] else [s!"[possible values: {names}]"]

/-- What stands before the form of an option: its letter, or blanks. -/
def mark (e : HelpEntry) : String :=
  match e.letter with
  | some c => s!"-{c}, "
  | none => "    "

def summary (e : HelpEntry) : String :=
  Text.joinWith " " ((if e.about.isEmpty then [] else [e.about]) ++ e.remarks false)

/-- The description of an entry in full: what it is about, its choices, and remarks. -/
def paragraphs (e : HelpEntry) : String :=
  let indent := "          "
  let list := Choice.explained e.choices
  let remarks := Text.joinWith s!"\n{indent}" (e.remarks (!list.isEmpty))
  let choices := Text.joinWith s!"\n{indent}" ("Possible values:" :: list)
  indent ++ e.about ++
    (if list.isEmpty then "" else s!"\n\n{indent}{choices}") ++
    (if remarks.isEmpty then ""
      else if e.about.isEmpty then remarks
      else s!"\n{indent}\n{indent}{remarks}")

end HelpEntry

namespace HelpPage

/-- Whether the page says more in full than in its summary. -/
def isLayered (p : HelpPage) : Bool :=
  (p.arguments ++ p.options).any fun e => !(Choice.explained e.choices).isEmpty

def allOptions (p : HelpPage) (summary : Bool) : List HelpEntry :=
  let other := if summary then " (see more with '--help')" else " (see a summary with '-h')"
  let about := "Print help" ++ if p.isLayered then other else ""
  p.options ++
    (if p.helps then [⟨some 'h', "--help", about, none, []⟩] else []) ++
    if p.hasVersion then [⟨some 'V', "--version", "Print version", none, []⟩] else []

def columns (rows : List (String × String)) : String :=
  Text.joinWith "\n" (((padAll (rows.map Prod.fst)).zip rows).map fun (left, row) =>
    s!"  {left}  {row.2}")

/-- A part of a page under its title; nothing if it has no entries. -/
def part (title : String) (summary : Bool) (mark : HelpEntry → String) (entries : List HelpEntry) :
    List String :=
  if entries.isEmpty then []
  else
    let body :=
      if summary then columns (entries.map fun e => (mark e ++ e.form, e.summary))
      else Text.joinWith "\n\n" (entries.map fun e => s!"  {mark e}{e.form}\n{e.paragraphs}")
    [s!"{title}:\n{body}"]

def text (p : HelpPage) (summary : Bool) : String :=
  let summary := summary || !p.isLayered
  let commands := if p.commands.isEmpty then [] else [s!"Commands:\n{columns p.commands}"]
  let parts := [p.about, s!"Usage: {p.usage}"] ++ commands ++
    part "Arguments" summary (fun _ => "") p.arguments ++
    part "Options" summary HelpEntry.mark (p.allOptions summary)
  Text.trimEnd (Text.joinWith "\n\n" parts) ++ "\n"

end HelpPage

end TypedTables.CommandLine
