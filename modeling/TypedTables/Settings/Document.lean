import TypedTables.Settings
import TypedTables.Toml.Document
import TypedTables.Toml.Print

/-!
# Settings documents

Taking settings from a document and writing them as one. A document may leave out any setting and
must not have a key that is none. A table of settings may also be given as an array: then its
settings stand in order, and what stands behind them is ignored.

A table that is left out has its own standard. A layout that is given in part is completed by the
standard of its kind of layout, which for config tables is not the layout that they have if it is
left out as a whole.
-/

namespace TypedTables

open Toml (Fault)

/-- The values of the given keys in a table, or in an array in their order. -/
def members (keys : List String) : Toml.Value → Except Fault (List (Option Toml.Value))
  | .table _ entries =>
    match entries.find? fun e => !keys.contains e.1 with
    | some e => .error (.unknownKey e.1)
    | none => .ok (keys.map fun key => entries.lookup key)
  | .array items => .ok ((List.range keys.length).map fun i => items[i]?)
  | .tables items => .ok ((List.range keys.length).map fun i =>
      (items[i]?).map (Toml.Value.table .header))
  | _ => .error (.wrongKind "a table")

/-- Kinds of settings. -/
class Setting (α : Type) where
  ofToml : Toml.Value → Except Fault α

namespace Setting

/-- A setting that may be left out. -/
def orElse {α : Type} [Setting α] (standard : α) : Option Toml.Value → Except Fault α
  | some v => ofToml v
  | none => .ok standard

def member {α : Type} [Setting α] (given : List (Option Toml.Value)) (i : Nat) (standard : α) :
    Except Fault α :=
  orElse standard (given[i]?).join

instance : Setting String where
  ofToml
    | .string s => .ok s
    | _ => .error (.wrongKind "a string")

instance : Setting Path where
  ofToml v := (ofToml v : Except Fault String).map Path.ofText

instance : Setting Nat where
  ofToml
    | .integer i => if 0 ≤ i then .ok i.toNat else .error (.wrongKind "a whole number from 0 on")
    | _ => .error (.wrongKind "a whole number")

instance : Setting Char where
  ofToml
    | .string s =>
      match s.toList with
      | [c] => .ok c
      | _ => .error (.wrongKind "one character")
    | _ => .error (.wrongKind "a character")

instance {α : Type} [Setting α] : Setting (Option α) where
  ofToml v := (ofToml v).map some

instance {α : Type} [Setting α] : Setting (List α) where
  ofToml
    | .array items => items.mapM ofToml
    | .tables items => items.mapM fun entries => ofToml (.table .header entries)
    | _ => .error (.wrongKind "an array")

def dataTableLayoutKeys : List String :=
  ["name_row", "type_row", "language_keyword_row", "comment_row", "content_start_row", "id_column",
    "summary_row", "summary_column"]

instance : Setting DataTableLayout where
  ofToml v := do
    let given ← members dataTableLayoutKeys v
    let standard : DataTableLayout := {}
    return {
      nameRow := ← member given 0 standard.nameRow
      typeRow := ← member given 1 standard.typeRow
      languageKeywordRow := ← member given 2 standard.languageKeywordRow
      commentRow := ← member given 3 standard.commentRow
      contentStartRow := ← member given 4 standard.contentStartRow
      idColumn := ← member given 5 standard.idColumn
      summaryRow := ← member given 6 standard.summaryRow
      summaryColumn := ← member given 7 standard.summaryColumn }

def dictionaryLayoutKeys : List String := ["name_row", "content_start_row"]

instance : Setting DictionaryLayout where
  ofToml v := do
    let given ← members dictionaryLayoutKeys v
    let standard : DictionaryLayout := {}
    return ⟨← member given 0 standard.nameRow, ← member given 1 standard.contentStartRow⟩

def batchKeys : List String :=
  ["source_dir", "output_dir", "manifest", "source_extension", "data_extension", "layout"]

/-- The settings of a batch, completed by those it has if it is left out. -/
def batch {Layout : Type} [Setting Layout] (standard : BatchSettings Layout) :
    Option Toml.Value → Except Fault (BatchSettings Layout)
  | none => .ok standard
  | some v => do
    let given ← members batchKeys v
    return {
      sourceDirectory := ← member given 0 standard.sourceDirectory
      outputDirectory := ← member given 1 standard.outputDirectory
      manifest := ← member given 2 standard.manifest
      sourceExtension := ← member given 3 standard.sourceExtension
      dataExtension := ← member given 4 standard.dataExtension
      layout := ← member given 5 standard.layout }

def codeKeys : List String := ["code_dir", "template", "namespace", "class_prefix"]

instance : Setting CodeSettings where
  ofToml v := do
    let given ← members codeKeys v
    let standard : CodeSettings := {}
    return {
      directory := ← member given 0 standard.directory
      template := ← member given 1 standard.template
      space := ← member given 2 standard.space
      classStart := ← member given 3 standard.classStart }

def trimChars (standard : List Char) : Option Toml.Value → Except Fault (List Char)
  | none => .ok standard
  | some v => do
    let given ← members ["trim_chars"] v
    member given 0 standard

def tableKeys : List String := ["source", "data_tables", "dictionaries", "configs", "code"]

end Setting

def Settings.ofEntries (entries : Toml.Entries) : Except Fault Settings := do
  let given ← members Setting.tableKeys (.table .header entries)
  let table (i : Nat) : Option Toml.Value := (given[i]?).join
  return {
    trimChars := ← Setting.trimChars standard.trimChars (table 0)
    dataTables := ← Setting.batch standard.dataTables (table 1)
    dictionaries := ← Setting.batch standard.dictionaries (table 2)
    configs := ← Setting.batch standard.configs (table 3)
    code := ← Setting.orElse standard.code (table 4) }

def Settings.ofDocument (document : String) : Except Fault Settings := do
  ofEntries (← Toml.parse document)

open Toml (entryText stringText arrayText tableText documentText)

def numberEntry (key : String) (n : Nat) : String := entryText key (Number.natText n)

def textEntry (key s : String) : String := entryText key (stringText s)

def DataTableLayout.entries (l : DataTableLayout) : List String :=
  [numberEntry "name_row" l.nameRow, numberEntry "type_row" l.typeRow] ++
    (l.languageKeywordRow.map (numberEntry "language_keyword_row")).toList ++
    [numberEntry "comment_row" l.commentRow,
      numberEntry "content_start_row" l.contentStartRow, numberEntry "id_column" l.idColumn,
      numberEntry "summary_row" l.summaryRow, numberEntry "summary_column" l.summaryColumn]

def DictionaryLayout.entries (l : DictionaryLayout) : List String :=
  [numberEntry "name_row" l.nameRow, numberEntry "content_start_row" l.contentStartRow]

/-- The tables of a batch: its own, and that of its layout. -/
def BatchSettings.tables {Layout : Type} (s : BatchSettings Layout) (name : String)
    (layoutEntries : Layout → List String) : List String :=
  [tableText name [
      textEntry "source_dir" s.sourceDirectory.text,
      textEntry "output_dir" s.outputDirectory.text,
      textEntry "manifest" s.manifest.text,
      textEntry "source_extension" s.sourceExtension,
      textEntry "data_extension" s.dataExtension],
    tableText (name ++ ".layout") (layoutEntries s.layout)]

def Settings.document (s : Settings) : String :=
  let trimChars := s.trimChars.map fun c => stringText (String.ofList [c])
  documentText (
    [tableText "source" [entryText "trim_chars" (arrayText trimChars)]] ++
    s.dataTables.tables "data_tables" DataTableLayout.entries ++
    s.dictionaries.tables "dictionaries" DictionaryLayout.entries ++
    s.configs.tables "configs" DictionaryLayout.entries ++
    [tableText "code" (
      [textEntry "code_dir" s.code.directory.text] ++
      (s.code.template.map fun p => textEntry "template" p.text).toList ++
      [textEntry "namespace" s.code.space, textEntry "class_prefix" s.code.classStart])])

end TypedTables
