import TypedTables.Proofs.Batch.Artifact
import TypedTables.Proofs.File.Sandbox
import TypedTables.Proofs.Table.Open

/-!
# What a run leaves

Processing a data table settles each artifact that is asked for: its path holds fresh bytes, or no
file. Nothing else changes, so no temporary file is left.
-/

namespace TypedTables.Proofs

open Batch (readTemplate checkNames)
open TreeSystem (tree)

variable {σ : Type}

/-! ### What a run is to leave -/

/-- What is made of a table. -/
inductive Artifact where
  | data
  | code

def Artifact.isRequested (job : DataTableJob) : Artifact → Bool
  | data => job.targets.includesData
  | code => job.targets.includesCode

def Artifact.path (job : DataTableJob) (name : String) : Artifact → Path
  | data => job.settings.dataTables.dataPath name
  | code => job.settings.codePath name

/-- Whether the artifacts go to different places, where both are asked for. -/
def AreApart (job : DataTableJob) (name : String) (t : Tree) : Prop :=
  job.targets = .both → ∀ l, t.locate (Artifact.data.path job name) = .ok l →
    t.locate (Artifact.code.path job name) ≠ .ok l

variable [FileSystem (StateM σ)]

/-- The bytes of a table's code, with the template as it is read. -/
def codeBytes (job : DataTableJob) (name : String) (table : DataTable) (s : σ) :
    Except TableError (List UInt8) := do
  let template ← (outcome (readTemplate job.settings.code.template) s).1
  let code ← table.emit name template job.settings.emitOptions job.timestamp
  return Wire.utf8 code

/-- The state in which the code is made: the work on the data comes first. -/
def behindData (job : DataTableJob) (name : String) (table : DataTable) (s : σ) : σ :=
  (attempted job.targets.includesData (job.makeData name table) s).2

/-- The bytes that an artifact is to have in a run that starts in a state. -/
def Artifact.bytes (job : DataTableJob) (name : String) (s : σ) :
    Artifact → Except TableError (List UInt8)
  | data => do (← (outcome (job.openTable name) s).1).encodeRows
  | code => do
    let table ← (outcome (job.openTable name) s).1
    codeBytes job name table (behindData job name table (outcome (job.openTable name) s).2)

lemma run_discardAll (job : DataTableJob) (name : String) (s : σ) :
    (StateT.run (job.discardAll name : StateM σ Unit) s).2 =
      (StateT.run (discardIf job.targets.includesCode (Artifact.code.path job name))
        (StateT.run (discardIf job.targets.includesData (Artifact.data.path job name)) s).2).2 := by
  unfold DataTableJob.discardAll
  cases job.targets.includesData <;> rfl

lemma process_refused {job : DataTableJob} {name : String} {e : TableError} {s s' : σ}
    (h : outcome (job.openTable name) s = (.error e, s')) :
    outcome (job.process name) s =
      (.error e, (StateT.run (job.discardAll name : StateM σ Unit) s').2) := by
  have hopen : outcome (tryCatch (job.openTable name) fun e => do
      (job.discardAll name : StateM σ Unit)
      throw e : Task (StateM σ) DataTable) s =
        (.error e, (StateT.run (job.discardAll name : StateM σ Unit) s').2) := by
    rw [outcome_tryCatch_error h, outcome_bind_ok (outcome_lift _ s'), outcome_throw]
  exact outcome_bind_error hopen

variable [TreeSystem σ]

/-- What a run leaves: the places that no artifact goes to as they were; behind a success every
artifact that is asked for, and in any case each of them whole or not at all; none of them where the
table cannot be opened. -/
structure Leaves (job : DataTableJob) (name : String) (s : σ)
    (ending : Except TableError Unit × σ) : Prop where
  frame : ∀ l, (∀ a : Artifact, a.isRequested job = true → (tree s).locate (a.path job name) ≠ .ok l) →
    (tree ending.2).node? l = (tree s).node? l
  success : ending.1 = .ok () → ∀ a : Artifact, a.isRequested job = true →
    ∃ bytes, a.bytes job name s = .ok bytes ∧ (tree ending.2).readBytes (a.path job name) = .ok bytes
  whole : ∀ a : Artifact, a.isRequested job = true →
    (tree ending.2).isFile (a.path job name) = false ∨ ∃ bytes, a.bytes job name s = .ok bytes ∧
      (tree ending.2).readBytes (a.path job name) = .ok bytes
  refused : ∀ e, (outcome (job.openTable name) s).1 = .error e → ending.1 = .error e ∧
    ∀ a : Artifact, a.isRequested job = true → (tree ending.2).isFile (a.path job name) = false

variable {s s' : σ}

/-! ### Work that changes no file -/

lemma quiet_checkNames (name : String) (table : DataTable) :
    Quiet (checkNames name table : Task (StateM σ) Unit) := by
  unfold checkNames
  apply quiet_bind (quiet_ofExcept _)
  intro schema
  refine quiet_bind (quiet_forIn fun f _ => ?_) fun _ => ?_
  · split
    · exact quiet_bind (quiet_lift fun s => TreeSystem.log _ s) fun _ => quiet_pure _
    · exact quiet_pure _
  · dsimp only
    split
    · exact quiet_throw _
    · exact quiet_pure _

lemma quiet_openTable (job : DataTableJob) (name : String) :
    Quiet (job.openTable name : Task (StateM σ) DataTable) := by
  unfold DataTableJob.openTable DataTable.read
  exact quiet_bind (quiet_bind (quiet_readGrid _ _) fun _ => quiet_ofExcept _) fun table =>
    quiet_bind (quiet_checkNames name table) fun _ => quiet_pure _

/-! ### Making one artifact -/

/-- A table's rows are at the path of its artifact, or no file is. -/
lemma ends_makeData (job : DataTableJob) (name : String) (table : DataTable) (s : σ) :
    Ends tree
      (fun _ => Replaced (job.settings.dataTables.dataPath name) (table.encodeRows = .ok ·) (tree s))
      (Cleared (job.settings.dataTables.dataPath name) (tree s))
      (outcome (job.makeData name table) s) := by
  exact ends_log (ends_writeArtifact _ _ s) fun _ _ => replaced_congr (untouched_refl _)

lemma quiet_readTemplate (template : Option Path) :
    Quiet (readTemplate template : Task (StateM σ) String) := by
  cases template with
  | none => exact quiet_pure _
  | some p =>
    intro s
    have hread := untouched_readText p s
    unfold readTemplate outcome FileSystem.located
    rw [ExceptT.run_mk, StateT.run_bind]
    exact hread

lemma ends_makeCode (job : DataTableJob) (name : String) (table : DataTable) (s : σ) :
    Ends tree
      (fun _ => Replaced (job.settings.codePath name) (codeBytes job name table s = .ok ·) (tree s))
      (Cleared (job.settings.codePath name) (tree s)) (outcome (job.makeCode name table) s) := by
  unfold DataTableJob.makeCode
  refine ends_log (ends_orDiscard ?_) fun _ _ => replaced_congr (untouched_refl _)
  have hread := quiet_readTemplate job.settings.code.template s
  rcases hending : outcome (readTemplate job.settings.code.template) s with ⟨result, s'⟩
  rw [hending] at hread
  cases result with
  | error e =>
    rw [outcome_bind_error hending]
    exact hread
  | ok template =>
    rw [outcome_bind_ok hending]
    cases hemit : table.emit name template job.settings.emitOptions job.timestamp with
    | error e =>
      rw [outcome_bind_error (outcome_ofExcept _ _)]
      exact hread
    | ok code =>
      have hbytes : codeBytes job name table s = .ok (Wire.utf8 code) := by
        unfold codeBytes
        rw [hending, bind_eq_ok]
        exact ⟨template, rfl, bind_eq_ok.mpr ⟨code, hemit, rfl⟩⟩
      rw [outcome_bind_ok (outcome_ofExcept _ _)]
      simp only [hbytes, Except.ok.injEq, eq_comm (a := Wire.utf8 code)]
      apply ends_mono (ends_replaceFile _ (Wire.utf8 code) s')
      · exact fun _ t h => replaced_congr hread h (untouched_refl _)
      · exact fun t => untouched_trans hread

/-! ### Processing a table -/

variable {job : DataTableJob} {name : String} {table : DataTable} {e : TableError} {t : Tree}

lemma process_opened (h : outcome (job.openTable name) s = (.ok table, s')) :
    let data := attempted job.targets.includesData (job.makeData name table) s'
    let code := attempted job.targets.includesCode (job.makeCode name table) data.2
    (outcome (job.process name) s).1 = (do data.1; code.1) ∧
      Untouched (tree code.2) (tree (outcome (job.process name) s).2) := by
  intro data code
  unfold DataTableJob.process
  rw [outcome_bind_ok (outcome_tryCatch_ok h), outcome_bind_ok (outcome_attempt _ _ _),
    outcome_bind_ok (outcome_attempt _ _ _)]
  change (outcome _ code.2).1 = _ ∧ _
  cases data.1 with
  | ok u =>
    cases code.1 with
    | ok u' => exact ⟨rfl, untouched_refl _⟩
    | error e => exact ⟨rfl, untouched_refl _⟩
  | error e =>
    cases code.1 with
    | ok u' => exact ⟨rfl, untouched_refl _⟩
    | error e' => exact ⟨rfl, TreeSystem.log _ code.2⟩

lemma apart_of_requested (h : AreApart job name t) (hdata : job.targets.includesData = true)
    (hcode : job.targets.includesCode = true) (l : Location)
    (hl : t.locate (Artifact.data.path job name) = .ok l) :
    t.locate (Artifact.code.path job name) ≠ .ok l := by
  refine h ?_ l hl
  cases htargets : job.targets with
  | data => simp [htargets, Targets.includesCode] at hcode
  | code => simp [htargets, Targets.includesData] at hdata
  | both => rfl

lemma leaves_of_left (failed : Artifact → Prop) {ending : Except TableError Unit × σ}
    (hchanges : Changes (fun l =>
      (Artifact.data.isRequested job = true ∧ (tree s).locate (Artifact.data.path job name) = .ok l) ∨
      (Artifact.code.isRequested job = true ∧ (tree s).locate (Artifact.code.path job name) = .ok l))
      (tree s) (tree ending.2))
    (hleft : ∀ a : Artifact, a.isRequested job = true →
      Left (a.path job name) (a.bytes job name s = .ok ·) (failed a) (tree ending.2))
    (hok : ending.1 = .ok () → ∀ a, ¬failed a)
    (hrefused : ∀ e, (outcome (job.openTable name) s).1 = .error e →
      ending.1 = .error e ∧ ∀ a, failed a) :
    Leaves job name s ending := by
  refine ⟨fun l hl => hchanges.frame l ?_, fun h a ha => (hleft a ha).fresh (hok h a), ?_, ?_⟩
  · rintro (⟨hrequested, hplace⟩ | ⟨hrequested, hplace⟩)
    · exact hl .data hrequested hplace
    · exact hl .code hrequested hplace
  · intro a ha
    by_cases hfailed : failed a
    · exact Or.inl ((hleft a ha).gone hfailed)
    · exact Or.inr ((hleft a ha).fresh hfailed)
  · intro e he
    obtain ⟨hending, hfailed⟩ := hrefused e he
    exact ⟨hending, fun a ha => (hleft a ha).gone (hfailed a)⟩

lemma untouched_of_openTable {result : Except TableError DataTable}
    (h : outcome (job.openTable name) s = (result, s')) : Untouched (tree s) (tree s') := by
  have hquiet := quiet_openTable job name s
  rwa [h] at hquiet

/-- A table that cannot be opened leaves no file of either artifact. -/
lemma leaves_refused (hopen : outcome (job.openTable name) s = (.error e, s'))
    (hapart : AreApart job name (tree s)) :
    Leaves job name s (outcome (job.process name) s) := by
  have hdata := settled_discardIf job.targets.includesData (Artifact.data.path job name)
    (Artifact.data.bytes job name s = .ok ·) s'
  have hcode := settled_discardIf job.targets.includesCode (Artifact.code.path job name)
    (Artifact.code.bytes job name s = .ok ·)
    (StateT.run (discardIf job.targets.includesData (Artifact.data.path job name)) s').2
  have hsame := untouched_of_openTable hopen
  rw [process_refused hopen, run_discardAll]
  refine leaves_of_left (fun _ => True) (changes_both hsame hdata hcode) ?_
    (fun hok => by simp at hok) ?_
  · intro a ha
    cases a with
    | data => exact left_of_both hsame hdata hcode (apart_of_requested hapart) ha
    | code => exact hcode.left ha
  · intro e' he
    rw [hopen] at he
    exact ⟨congrArg Except.error (Except.error.inj he), fun _ => trivial⟩

lemma leaves_opened (hopen : outcome (job.openTable name) s = (.ok table, s'))
    (hapart : AreApart job name (tree s)) :
    Leaves job name s (outcome (job.process name) s) := by
  have hdata := settled_attempted job.targets.includesData
    (ends_makeData job name table s')
  have hcode := settled_attempted job.targets.includesCode
    (ends_makeCode job name table (behindData job name table s'))
  have hbytes : Artifact.data.bytes job name s = table.encodeRows := by
    unfold Artifact.bytes
    rw [hopen]
    rfl
  have hbytes' : Artifact.code.bytes job name s =
      codeBytes job name table (behindData job name table s') := by
    unfold Artifact.bytes
    rw [hopen]
    rfl
  have hsame := untouched_of_openTable hopen
  obtain ⟨hresult, hend⟩ := process_opened hopen
  refine leaves_of_left (fun
    | .data => (attempted job.targets.includesData (job.makeData name table) s').1 ≠ .ok ()
    | .code => (attempted job.targets.includesCode (job.makeCode name table)
        (behindData job name table s')).1 ≠ .ok ()) ?_ ?_ ?_ ?_
  · exact changes_congr (untouched_refl _) (changes_both hsame hdata hcode) hend
  · intro a ha
    cases a with
    | data =>
      simp only [hbytes]
      exact left_of_untouched (left_of_both hsame hdata hcode (apart_of_requested hapart) ha) hend
    | code =>
      simp only [hbytes']
      exact left_of_untouched (hcode.left ha) hend
  · intro hok a hfailed
    rw [hresult, bind_eq_ok] at hok
    obtain ⟨_, hdata, hcode⟩ := hok
    cases a with
    | data => exact hfailed hdata
    | code => exact hfailed hcode
  · intro e he
    rw [hopen] at he
    simp at he

/-- Processing a table leaves fresh artifacts or none, and nothing else changes: no temporary file
stays. -/
theorem process_leaves (job : DataTableJob) (name : String) (s : σ)
    (hapart : AreApart job name (tree s)) :
    Leaves job name s (outcome (job.process name) s) := by
  rcases hopen : outcome (job.openTable name) s with ⟨result, s'⟩
  cases result with
  | ok table => exact leaves_opened hopen hapart
  | error e => exact leaves_refused hopen hapart

/-- A job on one directory for artifacts and one for code, whose names have the same extension. -/
def heroJob (codeDirectory : Path) : DataTableJob where
  settings := {
    dataTables := { BatchSettings.inDirectory "out" {} with
      sourceDirectory := ⟨["in"]⟩, dataExtension := "rs" }
    code := { directory := codeDirectory, template := some ⟨["row.tmpl"]⟩, classStart := "" } }
  types := Registry.standard
  targets := .both
  timestamp := ""

/-- A source and a template, and two directories. -/
def heroFiles : Sandbox where
  tree := ⟨⟨["work"]⟩, [(⟨["work", "in"]⟩, .directory), (⟨["work", "out"]⟩, .directory),
    (⟨["work", "code"]⟩, .directory), (⟨["work", "row.tmpl"]⟩, .file (Wire.utf8 "row\n")),
    (⟨["work", "in", "hero.txt"]⟩, .file (Wire.utf8
      "\tHeroes\t\n\tId\tName\n\tint\tstring\n\tkey\tname\n\t7\tAda\n"))]⟩
  log := []

theorem process_leaves_hero :
    AreApart (heroJob ⟨["code"]⟩) "hero" (tree heroFiles) ∧
    (outcome ((heroJob ⟨["code"]⟩).process "hero") heroFiles).1 = .ok () ∧
    Leaves (heroJob ⟨["code"]⟩) "hero" heroFiles
      (outcome ((heroJob ⟨["code"]⟩).process "hero") heroFiles) := by
  have hdata : (heroFiles.tree.locate (Artifact.data.path (heroJob ⟨["code"]⟩) "hero")).toOption =
      some ⟨["work", "out", "hero.rs"]⟩ := by decide +kernel
  have hcode : (heroFiles.tree.locate (Artifact.code.path (heroJob ⟨["code"]⟩) "hero")).toOption =
      some ⟨["work", "code", "hero.rs"]⟩ := by decide +kernel
  have hok : (outcome ((heroJob ⟨["code"]⟩).process "hero") heroFiles).1.toOption = some () := by
    decide +kernel
  have hapart : AreApart (heroJob ⟨["code"]⟩) "hero" (tree heroFiles) := by
    intro _ l hl hl'
    obtain rfl := Except.ok.inj ((toOption_eq_some.mp hdata).symm.trans hl)
    exact absurd ((toOption_eq_some.mp hcode).symm.trans hl') (by simp)
  exact ⟨hapart, toOption_eq_some.mp hok, process_leaves _ _ _ hapart⟩

/-- Paths that differ may lead to one place, and then the code takes the place of the rows. -/
theorem not_leaves_of_ne : ¬∀ (job : DataTableJob) (name : String) (s : Sandbox),
    job.settings.dataTables.dataPath name ≠ job.settings.codePath name →
      Leaves job name s (outcome (job.process name) s) := by
  intro h
  have hok : (outcome ((heroJob ⟨[".", "out"]⟩).process "hero") heroFiles).1.toOption =
      some () := by decide +kernel
  have hrows : (Artifact.data.bytes (heroJob ⟨[".", "out"]⟩) "hero" heroFiles).toOption =
      some [7, 3, 65, 100, 97] := by decide +kernel
  have hfile : ((outcome ((heroJob ⟨[".", "out"]⟩).process "hero") heroFiles).2.tree.readBytes
      (Artifact.data.path (heroJob ⟨[".", "out"]⟩) "hero")).toOption = some (Wire.utf8 "row\n") := by
    decide +kernel
  have hleaves := h (heroJob ⟨[".", "out"]⟩) "hero" heroFiles (by decide +kernel)
  obtain ⟨bytes, hbytes, hread⟩ := hleaves.success (toOption_eq_some.mp hok) .data rfl
  obtain rfl := Except.ok.inj ((toOption_eq_some.mp hrows).symm.trans hbytes)
  exact absurd ((toOption_eq_some.mp hfile).symm.trans hread) (by decide)

end TypedTables.Proofs
