import TypedTables.File.Sandbox
import TypedTables.Proofs.File.System
import TypedTables.Settings.Load

/-!
# What a document leaves out

Every setting has a key, and every key that a document gives is taken from it. A key that it leaves
out has its standard value, with one exception: once a part of the layout of config tables is given,
the rest of that layout is the standard of dictionaries.

Which setting a value stands for is said for each kind of setting on its own (`SettingValues`). The
readers of settings take just that from a value (`ExactSetting`).
-/

namespace TypedTables.Proofs

open Setting (orElse member batch ofToml tableKeys batchKeys codeKeys dataTableLayoutKeys
  dictionaryLayoutKeys)

/-! ### Values -/

/-- The values of documents that stand for settings of a kind. -/
class SettingValues (α : Type) where
  StandsFor : Toml.Value → α → Prop

open SettingValues (StandsFor)

instance : SettingValues String where
  StandsFor v s := v = .string s

instance : SettingValues Path where
  StandsFor v p := ∃ s, v = .string s ∧ p = Path.ofText s

instance : SettingValues Nat where
  StandsFor v n := v = .integer n

instance : SettingValues Char where
  StandsFor v c := v = .string (String.singleton c)

/-- A setting that may be missing is missing in no other way than by its key. -/
instance {α : Type} [SettingValues α] : SettingValues (Option α) where
  StandsFor v setting := ∃ a, setting = some a ∧ StandsFor v a

/-- A value that lists others. -/
inductive Lists : Toml.Value → List Toml.Value → Prop
  | array (items : List Toml.Value) : Lists (.array items) items
  | tables (items : List Toml.Entries) : Lists (.tables items) (items.map (.table .header))

instance {α : Type} [SettingValues α] : SettingValues (List α) where
  StandsFor v settings := ∃ items, Lists v items ∧ List.Forall₂ StandsFor items settings

/-- The reader of a kind of settings takes from a value just the setting that the value stands for. -/
class ExactSetting (α : Type) [Setting α] [SettingValues α] : Prop where
  ofToml_eq_ok {v : Toml.Value} {a : α} : ofToml v = .ok a ↔ StandsFor v a

open ExactSetting (ofToml_eq_ok)

instance : ExactSetting String where
  ofToml_eq_ok {v s} := by
    cases v <;> simp [ofToml, StandsFor]

instance : ExactSetting Path where
  ofToml_eq_ok {v p} := by
    change (ofToml v : Except _ String).map Path.ofText = .ok p ↔
      ∃ s, v = .string s ∧ p = Path.ofText s
    rw [map_eq_ok]
    exact exists_congr fun s => and_congr ofToml_eq_ok eq_comm

instance : ExactSetting Nat where
  ofToml_eq_ok {v n} := by
    cases v with
    | integer i =>
      change (if 0 ≤ i then Except.ok i.toNat else _) = .ok n ↔ Toml.Value.integer i = .integer n
      rw [Toml.Value.integer.injEq]
      split
      · rw [Except.ok.injEq]
        omega
      · simp only [reduceCtorEq, false_iff]
        omega
    | _ => simp [ofToml, StandsFor]

instance : ExactSetting Char where
  ofToml_eq_ok {v c} := by
    cases v with
    | string s =>
      have hsingle : Toml.Value.string s = .string (String.singleton c) ↔ s.toList = [c] := by
        rw [Toml.Value.string.injEq, ← String.toList_inj, String.toList_singleton]
      refine Iff.trans ?_ hsingle.symm
      simp only [ofToml]
      split
      · next d hd => rw [hd, Except.ok.injEq, List.singleton_inj]
      · next hnone =>
        simp only [reduceCtorEq, false_iff]
        exact hnone c
    | _ => simp [ofToml, StandsFor]

instance {α : Type} [Setting α] [SettingValues α] [ExactSetting α] : ExactSetting (Option α) where
  ofToml_eq_ok {v setting} := by
    change (ofToml v : Except _ α).map some = .ok setting ↔ ∃ a, setting = some a ∧ StandsFor v a
    rw [map_eq_ok]
    exact exists_congr fun a => and_comm.trans (and_congr eq_comm ofToml_eq_ok)

instance {α : Type} [Setting α] [SettingValues α] [ExactSetting α] : ExactSetting (List α) where
  ofToml_eq_ok {v settings} := by
    have hitems (items : List Toml.Value) :
        items.mapM ofToml = Except.ok settings ↔ List.Forall₂ StandsFor items settings := by
      rw [mapM_eq_ok]
      simp only [ofToml_eq_ok]
    constructor
    · intro h
      cases v with
      | array items => exact ⟨items, .array items, (hitems items).mp h⟩
      | tables given =>
        refine ⟨_, .tables given, (hitems _).mp ?_⟩
        rw [List.mapM_map]
        exact h
      | _ => cases h
    · rintro ⟨items, hlists, h⟩
      have hread := (hitems items).mpr h
      cases hlists with
      | array => exact hread
      | tables given =>
        rw [List.mapM_map] at hread
        exact hread

variable {α Layout : Type} [Setting α] [Setting Layout] {entries : Toml.Entries} {s : Settings}

/-! ### Keys -/

/-- What is given for a key: in a table the value of the key, in an array the value at the place that
the key has among all keys of the table. -/
def valueOf (keys : List String) (key : String) : Toml.Value → Option Toml.Value
  | .table _ entries => entries.lookup key
  | .array items => items[keys.idxOf key]?
  | .tables items => (items[keys.idxOf key]?).map (.table .header)
  | _ => none

/-- What a document gives at a path: at each step one of the keys of a table. -/
def given (entries : Toml.Entries) (path : List (List String × String)) : Option Toml.Value :=
  path.foldl (fun v step => v.bind (valueOf step.1 step.2)) (some (.table .header entries))

/-- A key of the settings, and the setting that it stands for. -/
structure SettingKey where
  Value : Type
  values : SettingValues Value
  path : List (List String × String)
  get : Settings → Value

def batchSettingKeys (name : String) (get : Settings → BatchSettings Layout) : List SettingKey :=
  [⟨Path, inferInstance, [(tableKeys, name), (batchKeys, "source_dir")],
      fun s => (get s).sourceDirectory⟩,
    ⟨Path, inferInstance, [(tableKeys, name), (batchKeys, "output_dir")],
      fun s => (get s).outputDirectory⟩,
    ⟨Path, inferInstance, [(tableKeys, name), (batchKeys, "manifest")], fun s => (get s).manifest⟩,
    ⟨String, inferInstance, [(tableKeys, name), (batchKeys, "source_extension")],
      fun s => (get s).sourceExtension⟩,
    ⟨String, inferInstance, [(tableKeys, name), (batchKeys, "data_extension")],
      fun s => (get s).dataExtension⟩]

def dictionaryLayoutSettingKeys (name : String)
    (get : Settings → BatchSettings DictionaryLayout) : List SettingKey :=
  let path (key : String) := [(tableKeys, name), (batchKeys, "layout"), (dictionaryLayoutKeys, key)]
  [⟨Nat, inferInstance, path "name_row", fun s => (get s).layout.nameRow⟩,
    ⟨Nat, inferInstance, path "content_start_row", fun s => (get s).layout.contentStartRow⟩]

def dataTableLayoutSettingKeys : List SettingKey :=
  let path (key : String) :=
    [(tableKeys, "data_tables"), (batchKeys, "layout"), (dataTableLayoutKeys, key)]
  [⟨Nat, inferInstance, path "name_row", fun s => s.dataTables.layout.nameRow⟩,
    ⟨Nat, inferInstance, path "type_row", fun s => s.dataTables.layout.typeRow⟩,
    ⟨Option Nat, inferInstance, path "language_keyword_row",
      fun s => s.dataTables.layout.languageKeywordRow⟩,
    ⟨Nat, inferInstance, path "comment_row", fun s => s.dataTables.layout.commentRow⟩,
    ⟨Nat, inferInstance, path "content_start_row", fun s => s.dataTables.layout.contentStartRow⟩,
    ⟨Nat, inferInstance, path "id_column", fun s => s.dataTables.layout.idColumn⟩,
    ⟨Nat, inferInstance, path "summary_row", fun s => s.dataTables.layout.summaryRow⟩,
    ⟨Nat, inferInstance, path "summary_column", fun s => s.dataTables.layout.summaryColumn⟩]

def codeSettingKeys : List SettingKey :=
  let path (key : String) := [(tableKeys, "code"), (codeKeys, key)]
  [⟨Path, inferInstance, path "code_dir", fun s => s.code.directory⟩,
    ⟨Option Path, inferInstance, path "template", fun s => s.code.template⟩,
    ⟨String, inferInstance, path "namespace", fun s => s.code.space⟩,
    ⟨String, inferInstance, path "class_prefix", fun s => s.code.classStart⟩]

def trimCharsSettingKey : SettingKey :=
  ⟨List Char, inferInstance, [(tableKeys, "source"), (["trim_chars"], "trim_chars")],
    Settings.trimChars⟩

/-- All keys of the settings. -/
def settingKeys : List SettingKey :=
  [trimCharsSettingKey] ++ batchSettingKeys "data_tables" Settings.dataTables ++
  dataTableLayoutSettingKeys ++ batchSettingKeys "dictionaries" Settings.dictionaries ++
  dictionaryLayoutSettingKeys "dictionaries" Settings.dictionaries ++
  batchSettingKeys "configs" Settings.configs ++
  dictionaryLayoutSettingKeys "configs" Settings.configs ++ codeSettingKeys

/-- The settings that complete a document: the standard, but with the layout of dictionaries for
config tables where the document gives a part of their layout. -/
def completion (entries : Toml.Entries) : Settings :=
  if (given entries [(tableKeys, "configs"), (batchKeys, "layout")]).isSome then
    { Settings.standard with configs := { Settings.standard.configs with layout := {} } }
  else Settings.standard

/-- Whether a setting is what the value stands for that a document gives for its key, or what completes
the document. -/
structure Completes (entries : Toml.Entries) (s : Settings) (key : SettingKey) : Prop where
  of_given : ∀ v, given entries key.path = some v → key.values.StandsFor v (key.get s)
  of_omitted : given entries key.path = none → key.get s = key.get (completion entries)

/-! ### Single settings -/

lemma valueOf_of_members {keys : List String} {v : Toml.Value} {values : List (Option Toml.Value)}
    (h : members keys v = .ok values) (hnodup : keys.Nodup) {i : Nat} {key : String}
    (hkey : keys[i]? = some key) : (values[i]?).join = valueOf keys key v := by
  obtain ⟨hi, rfl⟩ := List.getElem?_eq_some_iff.mp hkey
  have hplace : keys.idxOf keys[i] = i := hnodup.idxOf_getElem i hi
  unfold members at h
  split at h
  · split at h
    · cases h
    · obtain rfl := Except.ok.inj h
      simp [valueOf, hi]
  · obtain rfl := Except.ok.inj h
    simp [valueOf, hi, hplace]
  · obtain rfl := Except.ok.inj h
    simp [valueOf, hi, hplace]
  · cases h

lemma orElse_of_member {keys : List String} {v : Toml.Value} {values : List (Option Toml.Value)}
    {i : Nat} {standard a : α} (h : members keys v = .ok values) (ha : member values i standard = .ok a)
    (key : String) (hkey : keys[i]? = some key) (hnodup : keys.Nodup) :
    orElse standard (valueOf keys key v) = .ok a := by
  rw [← valueOf_of_members h hnodup hkey]
  exact ha

lemma batch_eq_ok {standard b : BatchSettings Layout} {table : Option Toml.Value}
    (h : batch standard table = .ok b) :
    orElse standard.sourceDirectory (table.bind (valueOf batchKeys "source_dir")) =
      .ok b.sourceDirectory ∧
    orElse standard.outputDirectory (table.bind (valueOf batchKeys "output_dir")) =
      .ok b.outputDirectory ∧
    orElse standard.manifest (table.bind (valueOf batchKeys "manifest")) = .ok b.manifest ∧
    orElse standard.sourceExtension (table.bind (valueOf batchKeys "source_extension")) =
      .ok b.sourceExtension ∧
    orElse standard.dataExtension (table.bind (valueOf batchKeys "data_extension")) =
      .ok b.dataExtension ∧
    orElse standard.layout (table.bind (valueOf batchKeys "layout")) = .ok b.layout := by
  cases table with
  | none =>
    obtain rfl := Except.ok.inj h
    exact ⟨rfl, rfl, rfl, rfl, rfl, rfl⟩
  | some v =>
    obtain ⟨values, hvalues, h⟩ := bind_eq_ok.mp h
    obtain ⟨source, hsource, h⟩ := bind_eq_ok.mp h
    obtain ⟨output, houtput, h⟩ := bind_eq_ok.mp h
    obtain ⟨manifest, hmanifest, h⟩ := bind_eq_ok.mp h
    obtain ⟨sourceExtension, hsourceExtension, h⟩ := bind_eq_ok.mp h
    obtain ⟨dataExtension, hdataExtension, h⟩ := bind_eq_ok.mp h
    obtain ⟨layout, hlayout, h⟩ := bind_eq_ok.mp h
    obtain rfl := pure_eq_ok.mp h
    have hnodup : batchKeys.Nodup := by decide
    exact ⟨orElse_of_member hvalues hsource _ rfl hnodup,
      orElse_of_member hvalues houtput _ rfl hnodup, orElse_of_member hvalues hmanifest _ rfl hnodup,
      orElse_of_member hvalues hsourceExtension _ rfl hnodup,
      orElse_of_member hvalues hdataExtension _ rfl hnodup,
      orElse_of_member hvalues hlayout _ rfl hnodup⟩

/-- A table that is given is completed by a standard of its own, whatever it is in. -/
def ownStandard (standard : α) (own : α) (v : Option Toml.Value) : α :=
  if v.isSome then own else standard

lemma dictionaryLayout_eq_ok {standard l : DictionaryLayout} {v : Option Toml.Value}
    (h : orElse standard v = .ok l) :
    orElse (ownStandard standard {} v).nameRow (v.bind (valueOf dictionaryLayoutKeys "name_row")) =
      .ok l.nameRow ∧
    orElse (ownStandard standard {} v).contentStartRow
      (v.bind (valueOf dictionaryLayoutKeys "content_start_row")) = .ok l.contentStartRow := by
  cases v with
  | none =>
    obtain rfl := Except.ok.inj h
    exact ⟨rfl, rfl⟩
  | some v =>
    obtain ⟨values, hvalues, h⟩ := bind_eq_ok.mp h
    obtain ⟨nameRow, hnameRow, h⟩ := bind_eq_ok.mp h
    obtain ⟨contentStart, hcontentStart, h⟩ := bind_eq_ok.mp h
    obtain rfl := pure_eq_ok.mp h
    exact ⟨orElse_of_member hvalues hnameRow _ rfl (by decide),
      orElse_of_member hvalues hcontentStart _ rfl (by decide)⟩

/-- Each setting of a layout of data tables is that of its key, or the standard one. -/
lemma dataTableLayout_eq_ok {l : DataTableLayout} {v : Option Toml.Value}
    (h : orElse {} v = .ok l) :
    let standard : DataTableLayout := {}
    let value (key : String) := v.bind (valueOf dataTableLayoutKeys key)
    orElse standard.nameRow (value "name_row") = .ok l.nameRow ∧
    orElse standard.typeRow (value "type_row") = .ok l.typeRow ∧
    orElse standard.languageKeywordRow (value "language_keyword_row") = .ok l.languageKeywordRow ∧
    orElse standard.commentRow (value "comment_row") = .ok l.commentRow ∧
    orElse standard.contentStartRow (value "content_start_row") = .ok l.contentStartRow ∧
    orElse standard.idColumn (value "id_column") = .ok l.idColumn ∧
    orElse standard.summaryRow (value "summary_row") = .ok l.summaryRow ∧
    orElse standard.summaryColumn (value "summary_column") = .ok l.summaryColumn := by
  cases v with
  | none =>
    obtain rfl := Except.ok.inj h
    exact ⟨rfl, rfl, rfl, rfl, rfl, rfl, rfl, rfl⟩
  | some v =>
    obtain ⟨values, hvalues, h⟩ := bind_eq_ok.mp h
    obtain ⟨nameRow, hnameRow, h⟩ := bind_eq_ok.mp h
    obtain ⟨typeRow, htypeRow, h⟩ := bind_eq_ok.mp h
    obtain ⟨keywordRow, hkeywordRow, h⟩ := bind_eq_ok.mp h
    obtain ⟨commentRow, hcommentRow, h⟩ := bind_eq_ok.mp h
    obtain ⟨contentStart, hcontentStart, h⟩ := bind_eq_ok.mp h
    obtain ⟨idColumn, hidColumn, h⟩ := bind_eq_ok.mp h
    obtain ⟨summaryRow, hsummaryRow, h⟩ := bind_eq_ok.mp h
    obtain ⟨summaryColumn, hsummaryColumn, h⟩ := bind_eq_ok.mp h
    obtain rfl := pure_eq_ok.mp h
    have hnodup : dataTableLayoutKeys.Nodup := by decide
    exact ⟨orElse_of_member hvalues hnameRow _ rfl hnodup,
      orElse_of_member hvalues htypeRow _ rfl hnodup,
      orElse_of_member hvalues hkeywordRow _ rfl hnodup,
      orElse_of_member hvalues hcommentRow _ rfl hnodup,
      orElse_of_member hvalues hcontentStart _ rfl hnodup,
      orElse_of_member hvalues hidColumn _ rfl hnodup,
      orElse_of_member hvalues hsummaryRow _ rfl hnodup,
      orElse_of_member hvalues hsummaryColumn _ rfl hnodup⟩

lemma code_eq_ok {c : CodeSettings} {v : Option Toml.Value} (h : orElse {} v = .ok c) :
    let standard : CodeSettings := {}
    let value (key : String) := v.bind (valueOf codeKeys key)
    orElse standard.directory (value "code_dir") = .ok c.directory ∧
    orElse standard.template (value "template") = .ok c.template ∧
    orElse standard.space (value "namespace") = .ok c.space ∧
    orElse standard.classStart (value "class_prefix") = .ok c.classStart := by
  cases v with
  | none =>
    obtain rfl := Except.ok.inj h
    exact ⟨rfl, rfl, rfl, rfl⟩
  | some v =>
    obtain ⟨values, hvalues, h⟩ := bind_eq_ok.mp h
    obtain ⟨directory, hdirectory, h⟩ := bind_eq_ok.mp h
    obtain ⟨template, htemplate, h⟩ := bind_eq_ok.mp h
    obtain ⟨space, hspace, h⟩ := bind_eq_ok.mp h
    obtain ⟨classStart, hclassStart, h⟩ := bind_eq_ok.mp h
    obtain rfl := pure_eq_ok.mp h
    have hnodup : codeKeys.Nodup := by decide
    exact ⟨orElse_of_member hvalues hdirectory _ rfl hnodup,
      orElse_of_member hvalues htemplate _ rfl hnodup, orElse_of_member hvalues hspace _ rfl hnodup,
      orElse_of_member hvalues hclassStart _ rfl hnodup⟩

lemma trimChars_eq_ok {standard chars : List Char} {v : Option Toml.Value}
    (h : Setting.trimChars standard v = .ok chars) :
    orElse standard (v.bind (valueOf ["trim_chars"] "trim_chars")) = .ok chars := by
  cases v with
  | none => exact h
  | some v =>
    obtain ⟨values, hvalues, h⟩ := bind_eq_ok.mp h
    exact orElse_of_member hvalues h _ rfl (by decide)

/-! ### All settings -/

lemma ofEntries_eq_ok (h : Settings.ofEntries entries = .ok s) :
    Setting.trimChars Settings.standard.trimChars (given entries [(tableKeys, "source")]) =
      .ok s.trimChars ∧
    batch Settings.standard.dataTables (given entries [(tableKeys, "data_tables")]) =
      .ok s.dataTables ∧
    batch Settings.standard.dictionaries (given entries [(tableKeys, "dictionaries")]) =
      .ok s.dictionaries ∧
    batch Settings.standard.configs (given entries [(tableKeys, "configs")]) = .ok s.configs ∧
    orElse Settings.standard.code (given entries [(tableKeys, "code")]) = .ok s.code := by
  obtain ⟨values, hvalues, h⟩ := bind_eq_ok.mp h
  obtain ⟨trimChars, htrimChars, h⟩ := bind_eq_ok.mp h
  obtain ⟨dataTables, hdataTables, h⟩ := bind_eq_ok.mp h
  obtain ⟨dictionaries, hdictionaries, h⟩ := bind_eq_ok.mp h
  obtain ⟨configs, hconfigs, h⟩ := bind_eq_ok.mp h
  obtain ⟨code, hcode, h⟩ := bind_eq_ok.mp h
  obtain rfl := pure_eq_ok.mp h
  have htable : ∀ {i key}, tableKeys[i]? = some key →
      (values[i]?).join = given entries [(tableKeys, key)] :=
    valueOf_of_members hvalues (by decide)
  refine ⟨?_, ?_, ?_, ?_, ?_⟩
  · rw [← htable (i := 0) rfl]
    exact htrimChars
  · rw [← htable (i := 1) rfl]
    exact hdataTables
  · rw [← htable (i := 2) rfl]
    exact hdictionaries
  · rw [← htable (i := 3) rfl]
    exact hconfigs
  · rw [← htable (i := 4) rfl]
    exact hcode

@[simp] lemma completion_trimChars : (completion entries).trimChars = Settings.standard.trimChars := by
  unfold completion
  split <;> rfl

@[simp] lemma completion_dataTables :
    (completion entries).dataTables = Settings.standard.dataTables := by
  unfold completion
  split <;> rfl

@[simp] lemma completion_dictionaries :
    (completion entries).dictionaries = Settings.standard.dictionaries := by
  unfold completion
  split <;> rfl

@[simp] lemma completion_code : (completion entries).code = Settings.standard.code := by
  unfold completion
  split <;> rfl

lemma completion_configs : (completion entries).configs =
    { Settings.standard.configs with
      layout := ownStandard Settings.standard.configs.layout {}
        (given entries [(tableKeys, "configs"), (batchKeys, "layout")]) } := by
  unfold completion ownStandard
  split <;> rfl

/-- A setting that is what its key gives or else what completes the document. -/
lemma completes_of_orElse [SettingValues α] [ExactSetting α] {path : List (List String × String)}
    {get : Settings → α}
    (h : orElse (get (completion entries)) (given entries path) = .ok (get s)) :
    Completes entries s ⟨α, inferInstance, path, get⟩ := by
  constructor
  · intro v hv
    dsimp only at hv
    rw [hv] at h
    exact ofToml_eq_ok.mp h
  · intro hnone
    rw [hnone] at h
    exact (Except.ok.inj h).symm

lemma completes_batch {name : String} {get : Settings → BatchSettings Layout}
    (hsame : ∃ layout, get (completion entries) = { get Settings.standard with layout })
    (h : batch (get Settings.standard) (given entries [(tableKeys, name)]) = .ok (get s)) :
    ∀ key ∈ batchSettingKeys name get, Completes entries s key := by
  obtain ⟨layout, hsame⟩ := hsame
  obtain ⟨hsource, houtput, hmanifest, hsourceExtension, hdataExtension, -⟩ := batch_eq_ok h
  intro key hkey
  simp only [batchSettingKeys, List.mem_cons, List.not_mem_nil, or_false] at hkey
  rcases hkey with rfl | rfl | rfl | rfl | rfl <;> apply completes_of_orElse <;>
    simp only [hsame]
  · exact hsource
  · exact houtput
  · exact hmanifest
  · exact hsourceExtension
  · exact hdataExtension

lemma completes_dictionaryLayout {name : String}
    {get : Settings → BatchSettings DictionaryLayout}
    (hlayout : (get (completion entries)).layout = ownStandard (get Settings.standard).layout {}
      (given entries [(tableKeys, name), (batchKeys, "layout")]))
    (h : batch (get Settings.standard) (given entries [(tableKeys, name)]) = .ok (get s)) :
    ∀ key ∈ dictionaryLayoutSettingKeys name get, Completes entries s key := by
  obtain ⟨-, -, -, -, -, hgiven⟩ := batch_eq_ok h
  obtain ⟨hnameRow, hcontentStart⟩ := dictionaryLayout_eq_ok hgiven
  intro key hkey
  simp only [dictionaryLayoutSettingKeys, List.mem_cons, List.not_mem_nil, or_false] at hkey
  rcases hkey with rfl | rfl <;> apply completes_of_orElse <;> simp only [hlayout]
  · exact hnameRow
  · exact hcontentStart

lemma completes_dataTableLayout
    (h : batch Settings.standard.dataTables (given entries [(tableKeys, "data_tables")]) =
      .ok s.dataTables) : ∀ key ∈ dataTableLayoutSettingKeys, Completes entries s key := by
  obtain ⟨-, -, -, -, -, hgiven⟩ := batch_eq_ok h
  obtain ⟨hnameRow, htypeRow, hkeywordRow, hcommentRow, hcontentStart, hidColumn, hsummaryRow,
    hsummaryColumn⟩ := dataTableLayout_eq_ok hgiven
  intro key hkey
  simp only [dataTableLayoutSettingKeys, List.mem_cons, List.not_mem_nil, or_false] at hkey
  rcases hkey with rfl | rfl | rfl | rfl | rfl | rfl | rfl | rfl <;> apply completes_of_orElse <;>
    simp only [completion_dataTables]
  · exact hnameRow
  · exact htypeRow
  · exact hkeywordRow
  · exact hcommentRow
  · exact hcontentStart
  · exact hidColumn
  · exact hsummaryRow
  · exact hsummaryColumn

lemma completes_code
    (h : orElse Settings.standard.code (given entries [(tableKeys, "code")]) = .ok s.code) :
    ∀ key ∈ codeSettingKeys, Completes entries s key := by
  obtain ⟨hdirectory, htemplate, hspace, hclassStart⟩ := code_eq_ok h
  intro key hkey
  simp only [codeSettingKeys, List.mem_cons, List.not_mem_nil, or_false] at hkey
  rcases hkey with rfl | rfl | rfl | rfl <;> apply completes_of_orElse <;>
    simp only [completion_code]
  · exact hdirectory
  · exact htemplate
  · exact hspace
  · exact hclassStart

lemma completes_trimChars (h : Setting.trimChars Settings.standard.trimChars
    (given entries [(tableKeys, "source")]) = .ok s.trimChars) :
    Completes entries s trimCharsSettingKey := by
  apply completes_of_orElse
  simp only [completion_trimChars]
  exact trimChars_eq_ok h

/-- Settings that are taken from a document have, for every key, what the document gives or else
what completes it. -/
theorem completes_ofEntries (h : Settings.ofEntries entries = .ok s) :
    ∀ key ∈ settingKeys, Completes entries s key := by
  obtain ⟨htrimChars, hdataTables, hdictionaries, hconfigs, hcode⟩ := ofEntries_eq_ok h
  intro key hkey
  simp only [settingKeys, List.mem_append, List.mem_singleton] at hkey
  rcases hkey with ((((((rfl | hkey) | hkey) | hkey) | hkey) | hkey) | hkey) | hkey
  · exact completes_trimChars htrimChars
  · exact completes_batch ⟨_, completion_dataTables⟩ hdataTables key hkey
  · exact completes_dataTableLayout hdataTables key hkey
  · exact completes_batch ⟨_, completion_dictionaries⟩ hdictionaries key hkey
  · refine completes_dictionaryLayout ?_ hdictionaries key hkey
    unfold ownStandard
    rw [completion_dictionaries]
    split <;> rfl
  · exact completes_batch ⟨_, completion_configs⟩ hconfigs key hkey
  · exact completes_dictionaryLayout (congrArg BatchSettings.layout completion_configs) hconfigs key
      hkey
  · exact completes_code hcode key hkey

/-- Settings that are loaded are the standard where no file is named and none is there. Otherwise the
file holds a document, and they have, for every key, what it gives or else what completes it. -/
theorem completes_load {σ : Type} [FileSystem (StateM σ)] {directory : Path} {named : Option Path}
    {before after : σ} (h : outcome (Settings.load directory named) before = (.ok s, after)) :
    let p := named.getD (directory.join Settings.fileName)
    let read := (StateT.run (FileSystem.readText p : StateM σ _) before).1
    (named = none ∧ read = .error .notFound ∧ s = Settings.standard) ∨
    ∃ document entries, read = .ok document ∧ Toml.parse document = .ok entries ∧
      ∀ key ∈ settingKeys, Completes entries s key := by
  intro p read
  have hlift : outcome (liftM (FileSystem.readText p : StateM σ _) : Task (StateM σ) _) before =
      (.ok read, (StateT.run (FileSystem.readText p : StateM σ _) before).2) := outcome_lift _ before
  unfold Settings.load at h
  cases hread : read with
  | error fault =>
    rw [hread] at hlift
    rw [outcome_bind_ok hlift] at h
    dsimp only at h
    split at h
    · next hmissing =>
      obtain ⟨hnamed, rfl⟩ := hmissing
      obtain ⟨hs, -⟩ := Prod.mk.inj h
      exact Or.inl ⟨by simpa using hnamed, rfl, (Except.ok.inj hs).symm⟩
    · cases h
  | ok document =>
    rw [hread] at hlift
    rw [outcome_bind_ok hlift] at h
    dsimp only at h
    rw [outcome_ofExcept] at h
    obtain ⟨found, hfound, hcheck⟩ := bind_eq_ok.mp (Prod.mk.inj h).1
    obtain ⟨-, -, hs⟩ := bind_eq_ok.mp hcheck
    obtain rfl := pure_eq_ok.mp hs
    obtain ⟨entries, hentries, hsettings⟩ := bind_eq_ok.mp (mapError_eq_ok.mp hfound)
    exact Or.inr ⟨document, entries, rfl, hentries, completes_ofEntries hsettings⟩

/-- A document that gives a part of the layout of config tables. -/
def partialFiles : Sandbox where
  tree := ⟨⟨["work"]⟩, [(⟨["work", "tablegen.toml"]⟩, .file (Wire.utf8
    "[data_tables]\nsource_dir = \"in\"\n\n[configs.layout]\nname_row = 3\n"))]⟩
  log := []

theorem completes_load_partial : ∃ s after,
    outcome (Settings.load .here none) partialFiles = (.ok s, after) ∧
      ∃ document entries,
        (StateT.run (FileSystem.readText ⟨[".", "tablegen.toml"]⟩ : Sandboxed _) partialFiles).1 =
          .ok document ∧
        Toml.parse document = .ok entries ∧ ∀ key ∈ settingKeys, Completes entries s key := by
  have hloaded : (outcome (Settings.load .here none) partialFiles).1.toOption.isSome = true := by
    decide +kernel
  rcases hload : outcome (Settings.load .here none) partialFiles with ⟨result, after⟩
  rw [hload] at hloaded
  obtain ⟨s, hs⟩ := Option.isSome_iff_exists.mp hloaded
  obtain rfl := toOption_eq_some.mp hs
  refine ⟨s, after, rfl, ?_⟩
  rcases completes_load hload with ⟨-, hmissing, -⟩ | hdocument
  · have hread : (StateT.run (FileSystem.readText ⟨[".", "tablegen.toml"]⟩ : Sandboxed _)
        partialFiles).1.toOption.isSome = true := by decide +kernel
    obtain ⟨document, hdocument⟩ := Option.isSome_iff_exists.mp hread
    cases hmissing.symm.trans (toOption_eq_some.mp hdocument)
  · exact hdocument

/-- A key that is left out of the layout of config tables need not have its standard value: where
the content starts is then as for dictionaries. -/
theorem not_standard_of_omitted : ¬∀ (p : Path) (document : String) (entries : Toml.Entries)
    (s : Settings), Toml.parse document = .ok entries → Settings.ofFile p document = .ok s →
      ∀ key ∈ settingKeys, given entries key.path = none → key.get s = key.get Settings.standard := by
  intro h
  have hstart : (Settings.ofFile Settings.fileName "[configs.layout]\nname_row = 3\n").toOption.map
      (·.configs.layout.contentStartRow) = some 1 := by decide +kernel
  have homitted : (Toml.parse "[configs.layout]\nname_row = 3\n").toOption.map (fun entries =>
      (given entries [(tableKeys, "configs"), (batchKeys, "layout"),
        (dictionaryLayoutKeys, "content_start_row")]).isNone) = some true := by decide +kernel
  obtain ⟨s, hs, hvalue⟩ := Option.map_eq_some_iff.mp hstart
  obtain ⟨entries, hentries, hnone⟩ := Option.map_eq_some_iff.mp homitted
  have hkey : ⟨Nat, inferInstance, [(tableKeys, "configs"), (batchKeys, "layout"),
      (dictionaryLayoutKeys, "content_start_row")], fun s => s.configs.layout.contentStartRow⟩ ∈
        settingKeys := by
    simp [settingKeys, dictionaryLayoutSettingKeys]
  have hstandard := h _ _ entries s (toOption_eq_some.mp hentries) (toOption_eq_some.mp hs) _ hkey
    (Option.isNone_iff_eq_none.mp hnone)
  exact absurd (hvalue.symm.trans hstandard) (by decide)

end TypedTables.Proofs
