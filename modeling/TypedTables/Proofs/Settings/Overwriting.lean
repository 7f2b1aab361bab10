import TypedTables.File.Sandbox
import TypedTables.Proofs.File.Place
import TypedTables.Proofs.File.System
import TypedTables.Proofs.Text.Split
import TypedTables.Settings.Load

/-!
# Sources and data

Settings that are loaded have passed a check that no batch overwrites its sources, which compares the
directories and the extensions as they are written. Main statement: what the check rules out, and
which extensions rule out everything. Directories that are spelled differently may be the same, and
different extensions may give different names of tables the same name of a file.
-/

namespace TypedTables.Proofs

variable {t : Tree} {Layout : Type} {b : BatchSettings Layout} {n m name ending : String}

/-- Whether a text is a single piece of a path. -/
def IsPlain (text : String) : Prop := '/' ∉ text.toList

/-- What can stand behind a name and a dot in the name of a file. -/
structure IsExtension (e : String) : Prop where
  plain : IsPlain e
  nameable : '\x00' ∉ e.toList
  short : ("a." ++ e).utf8ByteSize ≤ Tree.maxNameSize

/-- Whether all names of files with the one extension have the other one, too. -/
def Extends (longer shorter : String) : Prop := ("." ++ shorter).toList <:+ ("." ++ longer).toList

/-- How far the settings of a batch keep data from the places of sources. -/
structure SparesSources (b : BatchSettings Layout) : Prop where
  /-- Extensions of which neither extends the other keep all sources and data apart, and no others
  do. -/
  apart_iff : IsExtension b.sourceExtension → IsExtension b.dataExtension →
    ((∀ t n m, ¬SharesFile t (b.sourcePath n) (b.dataPath m)) ↔
      ¬Extends b.sourceExtension b.dataExtension ∧ ¬Extends b.dataExtension b.sourceExtension)
  /-- The data of a table take the place of its own source only where one directory is spelled in
  two ways. -/
  own : IsPlain b.sourceExtension → IsPlain b.dataExtension → ∀ t n, IsPlain n →
    SharesFile t (b.sourcePath n) (b.dataPath n) →
      b.sourceExtension = b.dataExtension ∧ b.sourceDirectory.same b.outputDirectory = false
  /-- In directories that are spelled alike, data take the place of sources of other tables only. -/
  alike : IsPlain b.sourceExtension → IsPlain b.dataExtension →
    b.sourceDirectory.same b.outputDirectory = true → ∀ t n m, IsPlain n → IsPlain m →
      SharesFile t (b.sourcePath n) (b.dataPath m) → b.sourceExtension ≠ b.dataExtension ∧ n ≠ m

/-! ### Names of files -/

lemma fileName?_join (directory : Path) (text : String) :
    (directory.join (.ofText text)).fileName? = (Path.ofText text).fileName? := by
  have hne : (Path.ofText text).pieces ≠ [] :=
    mt List.map_eq_nil_iff.mp (Text.splitOn_ne_nil '/' text.toList)
  unfold Path.join Path.fileName?
  split
  · rfl
  · split <;> simp only [List.getLast?_append_of_ne_nil _ hne]

lemma fileName?_ofText : (Path.ofText n).fileName? = some name →
    (Text.splitOn '/' n.toList).getLast? = some name.toList := by
  intro h
  obtain ⟨hlast, -⟩ := fileName?_eq_some.mp h
  rw [Path.ofText, Text.fieldsOn, List.getLast?_map] at hlast
  obtain ⟨piece, hpiece, rfl⟩ := Option.map_eq_some_iff.mp hlast
  rw [hpiece, String.toList_ofList]

/-- An ending without a slash is an ending of the name of the file. -/
lemma suffix_of_fileName (hplain : IsPlain ending) {directory : Path}
    (h : (directory.join (.ofText (n ++ ending))).fileName? = some name) :
    ending.toList <:+ name.toList := by
  rw [fileName?_join] at h
  have hsuffix : ending.toList <:+ (n ++ ending).toList := by
    rw [String.toList_append]
    exact List.suffix_append _ _
  obtain ⟨piece, hpiece, hending⟩ := exists_getLast?_splitOn hsuffix hplain
  rw [fileName?_ofText h] at hpiece
  rwa [Option.some.inj hpiece]

lemma eq_of_fileName (hplain : IsPlain n) {directory : Path}
    (h : (directory.join (.ofText n)).fileName? = some name) : n = name := by
  rw [fileName?_join] at h
  have hlast := fileName?_ofText h
  rw [splitOn_of_not_mem hplain] at hlast
  exact String.toList_inj.mp (Option.some.inj hlast)

lemma isPlain_append (hn : IsPlain n) (hm : IsPlain m) : IsPlain (n ++ m) := by
  unfold IsPlain
  rw [String.toList_append, List.mem_append]
  exact not_or.mpr ⟨hn, hm⟩

lemma isPlain_dot {e : String} (h : IsPlain e) : IsPlain ("." ++ e) :=
  isPlain_append (show '/' ∉ ".".toList by decide) h

lemma sourcePath_eq : b.sourcePath n =
    b.sourceDirectory.join (.ofText (n ++ ("." ++ b.sourceExtension))) := by
  rw [← String.append_assoc]
  rfl

lemma dataPath_eq : b.dataPath n = b.outputDirectory.join (.ofText (n ++ ("." ++ b.dataExtension))) := by
  rw [← String.append_assoc]
  rfl

/-- Of two endings of one name, one is an ending of the other. -/
lemma extends_of_sharesFile (hsource : IsPlain b.sourceExtension) (hdata : IsPlain b.dataExtension)
    (h : SharesFile t (b.sourcePath n) (b.dataPath m)) :
    Extends b.sourceExtension b.dataExtension ∨ Extends b.dataExtension b.sourceExtension := by
  obtain ⟨l, name, hp, hq, -⟩ := sharesFile_iff.mp h
  rw [sourcePath_eq] at hp
  rw [dataPath_eq] at hq
  exact (List.suffix_or_suffix_of_suffix (suffix_of_fileName (isPlain_dot hsource) hp)
    (suffix_of_fileName (isPlain_dot hdata) hq)).symm

/-- Tables whose names are no paths share a file only if the names of their files are the same. -/
lemma append_eq_of_sharesFile (hsource : IsPlain b.sourceExtension)
    (hdata : IsPlain b.dataExtension) (hn : IsPlain n) (hm : IsPlain m)
    (h : SharesFile t (b.sourcePath n) (b.dataPath m)) :
    n ++ ("." ++ b.sourceExtension) = m ++ ("." ++ b.dataExtension) := by
  obtain ⟨l, name, hp, hq, -⟩ := sharesFile_iff.mp h
  rw [sourcePath_eq] at hp
  rw [dataPath_eq] at hq
  rw [eq_of_fileName (isPlain_append hn (isPlain_dot hsource)) hp,
    eq_of_fileName (isPlain_append hm (isPlain_dot hdata)) hq]

/-! ### Files at the top -/

lemma pieces_top {e : String} (h : IsPlain e) :
    (Path.ofText ("/a" ++ ("." ++ e))).pieces = ["", "a." ++ e] := by
  have hpiece : '/' ∉ 'a' :: '.' :: e.toList := by simpa [IsPlain] using h
  have htext : ("/a" ++ ("." ++ e)).toList = '/' :: 'a' :: '.' :: e.toList := by simp
  rw [Path.ofText, Text.fieldsOn, htext, Text.splitOn, if_pos rfl, splitOn_of_not_mem hpiece]
  simp only [List.map_cons, List.map_nil, String.ofList_nil]
  rw [show 'a' :: '.' :: e.toList = ("a." ++ e).toList by simp, String.ofList_toList]

lemma start_top {e : String} (h : IsExtension e) (t : Tree) :
    t.start ⟨["", "a." ++ e]⟩ = .ok .top := by
  have hempty : Path.isEmpty ⟨["", "a." ++ e]⟩ = false := Bool.and_false _
  have hnameable : Path.isNameable ⟨["", "a." ++ e]⟩ = true := by
    simpa [Path.isNameable] using h.nameable
  have htext : Path.text ⟨["", "a." ++ e]⟩ = "/" ++ ("a." ++ e) := by
    rw [← String.toList_inj, Path.text, Text.toList_joinWith]
    simp [Text.joinChars, List.intercalate]
  have hsize : (Path.text ⟨["", "a." ++ e]⟩).utf8ByteSize ≤ Tree.maxPathSize := by
    have hshort := h.short
    rw [htext, String.utf8ByteSize_append]
    unfold Tree.maxNameSize at hshort
    unfold Tree.maxPathSize
    have hslash : "/".utf8ByteSize = 1 := rfl
    omega
  rw [Tree.start, hempty, hnameable, if_neg Bool.false_ne_true]
  simp only [Bool.not_true, Bool.false_eq_true, if_false, if_neg (Nat.not_lt.mpr hsize)]
  rfl

lemma locate_top {e : String} (h : IsExtension e) :
    (Tree.empty .top).locate ⟨["", "a." ++ e]⟩ = .ok ⟨["a." ++ e]⟩ := by
  have hne : ∀ other : String, other.toList.head? ≠ some 'a' → "a." ++ e ≠ other := by
    rintro other hother rfl
    exact hother (by simp)
  have hname : Path.fileName? ⟨["", "a." ++ e]⟩ = some ("a." ++ e) := by
    refine fileName?_eq_some.mpr ⟨rfl, ?_, hne ".." (by decide)⟩
    simp [Path.isIdle, hne "" (by decide), hne "." (by decide)]
  have hfolder : (Tree.empty .top).folder ⟨["", "a." ++ e]⟩ = .ok .top :=
    folder_eq_ok.mpr ⟨.top, start_top h _, rfl, rfl⟩
  exact (locate_of_fileName hname).mpr
    ⟨.top, hfolder, if_neg (Nat.not_lt.mpr h.short), rfl⟩

/-- The path of a file at the top leads to it from any directory. -/
lemma sharesFile_top {e : String} (h : IsExtension e) (directory directory' : Path) :
    SharesFile (.empty .top) (directory.join (.ofText ("/a" ++ ("." ++ e))))
      (directory'.join (.ofText ("/a" ++ ("." ++ e)))) := by
  have hpath : Path.ofText ("/a" ++ ("." ++ e)) = ⟨["", "a." ++ e]⟩ :=
    congrArg Path.mk (pieces_top h.plain)
  have habsolute : Path.isAbsolute ⟨["", "a." ++ e]⟩ = true := rfl
  rw [hpath, Path.join, Path.join, if_pos habsolute, if_pos habsolute]
  exact ⟨_, locate_top h, locate_top h, by simp [Tree.node?, Tree.isFixed, Tree.empty, Location.top]⟩

/-- Where one extension extends another, a name can make up for what the other lacks. -/
lemma exists_name_of_extends {longer shorter : String} (h : Extends longer shorter) :
    ∃ n, n ++ ("." ++ shorter) = "/a" ++ ("." ++ longer) := by
  obtain ⟨front, hfront⟩ := h
  refine ⟨"/a" ++ String.ofList front, String.toList_inj.mp ?_⟩
  simp only [String.toList_append, String.toList_ofList, List.append_assoc] at hfront ⊢
  rw [hfront]

/-! ### Settings -/

lemma sparesSources_of_check (h : b.overwritesSources = false) : SparesSources b where
  apart_iff hsource hdata := by
    constructor
    · intro hapart
      constructor
      · intro hextends
        obtain ⟨m, hm⟩ := exists_name_of_extends hextends
        apply hapart (.empty .top) "/a" m
        rw [sourcePath_eq, dataPath_eq, hm]
        exact sharesFile_top hsource _ _
      · intro hextends
        obtain ⟨n, hn⟩ := exists_name_of_extends hextends
        apply hapart (.empty .top) n "/a"
        rw [sourcePath_eq, dataPath_eq, hn]
        exact sharesFile_top hdata _ _
    · rintro ⟨hsourceLonger, hdataLonger⟩ t n m hshares
      exact (extends_of_sharesFile hsource.plain hdata.plain hshares).elim hsourceLonger hdataLonger
  own hsource hdata t n hn hshares := by
    have hname := append_eq_of_sharesFile hsource hdata hn hn hshares
    have hextension : b.sourceExtension = b.dataExtension := by
      simpa [String.ext_iff] using hname
    refine ⟨hextension, ?_⟩
    simpa [BatchSettings.overwritesSources, hextension] using h
  alike hsource hdata hsame t n m hn hm hshares := by
    have hname := append_eq_of_sharesFile hsource hdata hn hm hshares
    have hne : b.sourceExtension ≠ b.dataExtension := by
      simpa [BatchSettings.overwritesSources, hsame] using h
    refine ⟨hne, ?_⟩
    rintro rfl
    exact hne (by simpa [String.ext_iff] using hname)

lemma overwritesSources_of_check {s : Settings} (h : s.check = .ok ()) :
    s.dataTables.overwritesSources = false ∧ s.dictionaries.overwritesSources = false ∧
      s.configs.overwritesSources = false := by
  unfold Settings.check at h
  obtain ⟨-, h⟩ := guard_eq_ok.mp h
  obtain ⟨hdataTables, h⟩ := guard_eq_ok.mp h
  obtain ⟨hdictionaries, h⟩ := guard_eq_ok.mp h
  refine ⟨by simpa using hdataTables, by simpa using hdictionaries, ?_⟩
  by_cases hconfigs : s.configs.overwritesSources = true
  · dsimp only at h
    rw [if_pos hconfigs] at h
    exact absurd h throw_ne_ok
  · simpa using hconfigs

lemma check_of_load {σ : Type} [FileSystem (StateM σ)] {directory : Path} {named : Option Path}
    {before after : σ} {s : Settings}
    (h : outcome (Settings.load directory named) before = (.ok s, after)) : s.check = .ok () := by
  unfold Settings.load at h
  obtain ⟨read, between, -, h⟩ := outcome_bind_eq_ok h
  cases read with
  | error fault =>
    dsimp only at h
    split at h
    · obtain ⟨hs, -⟩ := Prod.mk.inj h
      rw [← Except.ok.inj hs]
      rfl
    · cases h
  | ok document =>
    dsimp only at h
    rw [outcome_ofExcept] at h
    obtain ⟨found, -, hcheck⟩ := bind_eq_ok.mp (Prod.mk.inj h).1
    obtain ⟨u, hok, hs⟩ := bind_eq_ok.mp hcheck
    rw [← pure_eq_ok.mp hs]
    exact mapError_eq_ok.mp hok

/-- Settings that are loaded keep the sources of every batch as far as this goes: from the data of
all tables where the extensions allow for it, and from the data of their own tables in directories
that are spelled alike. -/
theorem sparesSources_load {σ : Type} [FileSystem (StateM σ)] {directory : Path}
    {named : Option Path} {before after : σ} {s : Settings}
    (h : outcome (Settings.load directory named) before = (.ok s, after)) :
    SparesSources s.dataTables ∧ SparesSources s.dictionaries ∧ SparesSources s.configs := by
  obtain ⟨hdataTables, hdictionaries, hconfigs⟩ := overwritesSources_of_check (check_of_load h)
  exact ⟨sparesSources_of_check hdataTables, sparesSources_of_check hdictionaries,
    sparesSources_of_check hconfigs⟩

/-- Settings in which one directory is spelled in two ways, and the source of a dictionary. -/
def spelledFiles : Sandbox where
  tree := ⟨⟨["work"]⟩, [(⟨["work", "tablegen.toml"]⟩, .file (Wire.utf8
      "[dictionaries]\noutput_dir = \"./dictionaries\"\ndata_extension = \"txt\"\n")),
    (⟨["work", "dictionaries"]⟩, .directory),
    (⟨["work", "dictionaries", "en.txt"]⟩, .file (Wire.utf8 "Key\tValue\nHello\tWorld\n"))]⟩
  log := []

lemma exists_spelled : ∃ s after, outcome (Settings.load .here none) spelledFiles = (.ok s, after) ∧
    (s.dictionaries.sourceExtension = "txt" ∧ s.dictionaries.dataExtension = "txt") ∧
    SharesFile spelledFiles.tree (s.dictionaries.sourcePath "en") (s.dictionaries.dataPath "en") := by
  have hloaded : (outcome (Settings.load .here none) spelledFiles).1.toOption.map (fun s =>
      (s.dictionaries.sourceExtension, s.dictionaries.dataExtension, s.dictionaries.sourcePath "en",
        s.dictionaries.dataPath "en")) =
      some ("txt", "txt", ⟨["dictionaries", "en.txt"]⟩, ⟨[".", "dictionaries", "en.txt"]⟩) := by
    decide +kernel
  rcases hload : outcome (Settings.load .here none) spelledFiles with ⟨result, after⟩
  rw [hload] at hloaded
  obtain ⟨s, hs, hpaths⟩ := Option.map_eq_some_iff.mp hloaded
  obtain rfl := toOption_eq_some.mp hs
  simp only [Prod.mk.injEq] at hpaths
  obtain ⟨hsource, hdata, hsourcePath, hdataPath⟩ := hpaths
  refine ⟨s, after, rfl, ⟨hsource, hdata⟩, ⟨["work", "dictionaries", "en.txt"]⟩, ?_, ?_, ?_⟩
  · rw [hsourcePath]
    rfl
  · rw [hdataPath]
    rfl
  · decide +kernel

theorem sparesSources_load_spelled : ∃ s after,
    outcome (Settings.load .here none) spelledFiles = (.ok s, after) ∧
      SparesSources s.dataTables ∧ SparesSources s.configs ∧
      SharesFile spelledFiles.tree (s.dictionaries.sourcePath "en") (s.dictionaries.dataPath "en") ∧
      s.dictionaries.sourceDirectory.same s.dictionaries.outputDirectory = false := by
  obtain ⟨s, after, hload, ⟨hsource, hdata⟩, hshares⟩ := exists_spelled
  obtain ⟨hdataTables, hdictionaries, hconfigs⟩ := sparesSources_load hload
  have hplain : IsPlain "txt" := by unfold IsPlain; decide
  obtain ⟨-, hspelled⟩ := hdictionaries.own (hsource ▸ hplain) (hdata ▸ hplain) _ "en"
    (by unfold IsPlain; decide) hshares
  exact ⟨s, after, hload, hdataTables, hconfigs, hshares, hspelled⟩

/-- Settings may be loaded although the data of a dictionary take the place of its source. -/
theorem not_apart_of_loaded : ¬∀ (directory : Path) (named : Option Path) (before after : Sandbox)
    (s : Settings), outcome (Settings.load directory named) before = (.ok s, after) →
      ∀ n m, ¬SharesFile before.tree (s.dictionaries.sourcePath n) (s.dictionaries.dataPath m) := by
  intro h
  obtain ⟨s, after, hload, -, hshares⟩ := exists_spelled
  exact h _ _ _ _ _ hload "en" "en" hshares

end TypedTables.Proofs
