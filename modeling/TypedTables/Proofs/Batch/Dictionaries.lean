import TypedTables.Batch.Dictionaries
import TypedTables.Proofs.Batch.Artifact
import TypedTables.Proofs.Batch.Run
import TypedTables.Proofs.File.Sandbox
import TypedTables.Proofs.Table.Open

/-!
# What failed dictionaries leave

A dictionary that is opened loses its earlier artifact when it fails. One that cannot be opened
keeps it: the batch goes on before anything is discarded.
-/

namespace TypedTables.Proofs

open Batch (writeArtifact)
open TreeSystem (tree)

variable {σ : Type} [FileSystem (StateM σ)]

/-- The paths that a dictionary of the batch writes to. -/
def artifactPaths (job : DictionaryJob) (name : String) : List Path := [job.settings.dataPath name]

/-- The state in which the first dictionary is processed: the directory for artifacts is made. -/
def withDirectory (job : DictionaryJob) (s : σ) : σ :=
  (outcome (FileSystem.ensureDirectory job.settings.outputDirectory) s).2

/-- What processing a dictionary comes to: by its result, what has become of the path of its
artifact. -/
inductive Processed (p : Path) (t t' : Tree) : Except TableError Unit → Prop
  | written : Replaced p (fun _ => True) t t' → Processed p t t' (.ok ())
  | refused (e : TableError) : IsSetupError e → Untouched t t' → Processed p t t' (.error e)
  | hindered (e : TableError) : IsFileError e → Cleared p t t' → Processed p t t' (.error e)

lemma changes_of_processed {p : Path} {t t' : Tree} {result : Except TableError Unit}
    (h : Processed p t t' result) : Changes (IsAt [p] t) t t' := by
  have hplace : ∀ l, t.locate p = .ok l → IsAt [p] t l := fun l hl => ⟨p, List.mem_cons_self, hl⟩
  cases h with
  | written h =>
    obtain ⟨l, bytes, -, hl, hchanges, -⟩ := h
    exact changes_mono hchanges fun l' hl' => hplace l' (hl' ▸ hl)
  | refused e _ h => exact changes_of_untouched h
  | hindered e _ h => exact changes_mono h.1 hplace

variable [TreeSystem σ]

theorem processed_process (job : DictionaryJob) (name : String) (s : σ) :
    Processed (job.settings.dataPath name) (tree s) (tree (outcome (job.process name) s).2)
      (outcome (job.process name) s).1 := by
  have hquiet : Untouched (tree s) (tree (outcome (job.openTable name) s).2) :=
    quiet_readDictionary _ _ _ s
  unfold DictionaryJob.process
  rcases hopen : outcome (job.openTable name) s with ⟨result, s'⟩
  rw [hopen] at hquiet
  cases result with
  | error e =>
    rw [outcome_bind_error hopen]
    have hresult : (outcome (job.openTable name) s).1 = .error e := by rw [hopen]
    exact .refused e (failsAs_readDictionary _ _ _ s e hresult) hquiet
  | ok d =>
    obtain ⟨bytes, hbytes⟩ := exists_encodeRows_of_read _ _ _ hopen
    have hwrite := ends_writeArtifact d.encodeRows (job.settings.dataPath name) s'
    rw [outcome_bind_ok hopen]
    rcases hending : outcome (writeArtifact d.encodeRows (job.settings.dataPath name)) s' with
      ⟨result, s''⟩
    rw [hending] at hwrite
    cases result with
    | ok size =>
      rw [outcome_bind_ok hending]
      exact .written (replaced_congr hquiet (replaced_mono hwrite fun _ _ => trivial) (untouched_refl _))
    | error e =>
      rw [outcome_bind_error hending]
      exact .hindered e (failsAs_writeArtifact hbytes _ s' e (by rw [hending]))
        (cleared_congr hquiet hwrite (untouched_refl _))

lemma confined_dictionaries (job : DictionaryJob) :
    Confined (artifactPaths job) (job.process : String → Task (StateM σ) Unit) :=
  fun name s => changes_of_processed (processed_process job name s)

lemma grown_withDirectory (job : DictionaryJob) (s : σ) :
    Grown (tree s) (tree (withDirectory job s)) :=
  grown_ensureDirectory _ s

/-- What a failed dictionary leaves depends on how it failed. One that could not be set up keeps the
file that was at the path of its artifact before the batch, if there was one; one that could not be
written has no file there. The places of the artifacts are told apart once their directory is made:
before, there may be no way to any of them. -/
theorem leaves_of_failed (job : DictionaryJob) {names : List String} (hnodup : names.Nodup) {s s' : σ}
    (hapart : ∀ name ∈ names, ∀ other ∈ names, other ≠ name →
      Avoid (artifactPaths job name) (IsAt (artifactPaths job other) (tree (withDirectory job s)))
        (tree (withDirectory job s)))
    {report : Report} (h : outcome (job.run names) s = (.ok report, s')) :
    ∀ f ∈ report.failed,
      (IsSetupError f.error ∧ Kept (job.settings.dataPath f.name) (tree s) (tree s')) ∨
      (IsFileError f.error ∧ (tree s').isFile (job.settings.dataPath f.name) = false) := by
  intro f hf
  obtain ⟨-, done, hrun, hdone⟩ := runEach_of_outcome h
  obtain ⟨before, after, found, hturn, hresult⟩ :=
    exists_turn (confined_dictionaries job) hrun f.name (.error f.error) hf
  have hname : f.name ∈ names := by simp [hturn.names_eq]
  obtain ⟨hbefore, hafter⟩ := avoid_of_turn hnodup hturn (hapart f.name hname)
  have hprocessed := processed_process job f.name found
  have hfinish := changes_congr (untouched_refl _) hturn.finish hdone
  rw [hresult] at hprocessed
  cases hprocessed with
  -- Nothing changes its place in the whole batch: neither the others nor its own turn.
  | refused e hsetup hsame =>
    have hchanges := changes_trans (changes_congr (untouched_refl _) hturn.start hsame) hfinish
    have hkept := kept_of_grown (grown_withDirectory job s) (job.settings.dataPath f.name)
    refine Or.inl ⟨hsetup, kept_of_changes hkept hchanges fun l hl => ?_⟩
    exact not_or.mpr ⟨hbefore _ List.mem_cons_self l hl, hafter _ List.mem_cons_self l hl⟩
  | hindered e hfile hcleared =>
    have hgone := isFile_of_cleared hcleared
    refine Or.inr ⟨hfile, ?_⟩
    rw [Bool.eq_false_iff] at hgone ⊢
    refine mt (isFile_of_changes hfinish fun l hl => ?_).mp hgone
    have hplace := (locate_of_changes hturn.start).mp ((locate_of_changes hcleared.1).mp hl)
    exact hafter _ List.mem_cons_self l hplace

/-- An earlier artifact of each of two dictionaries, of which one has a source. -/
def staleFiles : Sandbox where
  tree := ⟨⟨["work"]⟩, [(⟨["work", "dictionaries"]⟩, .directory),
    (⟨["work", "dictionaries", "de.txt"]⟩, .file (Wire.utf8 "\tKey\n\tja\n")),
    (⟨["work", "dictionaries", "de.bytes"]⟩, .file [0]),
    (⟨["work", "dictionaries", "en.bytes"]⟩, .file [2, 111, 107])]⟩
  log := []

theorem leaves_of_failed_stale :
    let job := DictionaryJob.dictionaries Settings.standard
    ∃ report s', outcome (job.run ["en", "de"]) staleFiles = (.ok report, s') ∧
      ∃ f ∈ report.failed, f.name = "en" ∧
        ((IsSetupError f.error ∧
          Kept (job.settings.dataPath f.name) (tree staleFiles) (tree s')) ∨
        (IsFileError f.error ∧ (tree s').isFile (job.settings.dataPath f.name) = false)) := by
  intro job
  have hplaces : ∀ name ∈ ["en", "de"], ∀ other ∈ ["en", "de"], other ≠ name →
      ∀ p ∈ artifactPaths job name, ∀ q ∈ artifactPaths job other,
        ((tree (withDirectory job staleFiles)).locate p).toOption ≠
          ((tree (withDirectory job staleFiles)).locate q).toOption := by decide +kernel
  have hnames : (outcome (job.run ["en", "de"]) staleFiles).1.toOption.map
      (·.failed.map Failure.name) = some ["en"] := by decide +kernel
  rcases hrun : outcome (job.run ["en", "de"]) staleFiles with ⟨result, s'⟩
  rw [hrun] at hnames
  obtain ⟨report, hreport, hfailed⟩ := Option.map_eq_some_iff.mp hnames
  obtain rfl := toOption_eq_some.mp hreport
  obtain ⟨f, hf, hname⟩ := List.mem_map.mp (hfailed ▸ List.mem_cons_self : "en" ∈ _)
  refine ⟨report, s', rfl, f, hf, hname, leaves_of_failed job (by decide) ?_ hrun f hf⟩
  exact fun name hmem other hother hne => avoid_of_ne (hplaces name hmem other hother hne)

/-- A dictionary without a source keeps its earlier artifact, though it failed. -/
theorem not_gone_of_failed : ¬∀ (job : DictionaryJob) (names : List String) (s s' : Sandbox)
    (report : Report), names.Nodup → (names.map job.settings.dataPath).Nodup →
      outcome (job.run names) s = (.ok report, s') →
        ∀ f ∈ report.failed, (tree s').isFile (job.settings.dataPath f.name) = false := by
  intro h
  have hnames : (outcome ((DictionaryJob.dictionaries Settings.standard).run ["en"])
      staleFiles).1.toOption.map (·.failed.map Failure.name) = some ["en"] := by decide +kernel
  have hfile : (tree (outcome ((DictionaryJob.dictionaries Settings.standard).run ["en"])
      staleFiles).2).isFile
        ((DictionaryJob.dictionaries Settings.standard).settings.dataPath "en") = true := by
    decide +kernel
  rcases hrun : outcome ((DictionaryJob.dictionaries Settings.standard).run ["en"]) staleFiles with
    ⟨result, s'⟩
  rw [hrun] at hnames hfile
  obtain ⟨report, hreport, hfailed⟩ := Option.map_eq_some_iff.mp hnames
  obtain rfl := toOption_eq_some.mp hreport
  obtain ⟨f, hf, hname⟩ := List.mem_map.mp (hfailed ▸ List.mem_cons_self : "en" ∈ _)
  have hgone := h _ ["en"] staleFiles s' report (by decide) (List.nodup_singleton _) hrun f hf
  rw [hname, hfile] at hgone
  cases hgone

end TypedTables.Proofs
