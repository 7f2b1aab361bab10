import TypedTables.Proofs.Batch.DataTables
import TypedTables.Proofs.Batch.Run

/-!
# Tables that do not disturb each other

A table of a batch is as good as alone if the artifacts of the others go to none of the places that
it reads or writes. Names that differ do not ensure this: the code of two tables may go to one file.
-/

namespace TypedTables.Proofs

open Batch (readTemplate checkNames)
open FileSystem (ensureDirectory)
open TreeSystem (tree)

variable {σ : Type}

/-- The files that the processing of a table reads. -/
def sourcePaths (job : DataTableJob) (name : String) : List Path :=
  job.settings.dataTables.sourcePath name ::
    if job.targets.includesCode then job.settings.code.template.toList else []

/-- The files that the processing of a table makes or discards. -/
def targetPaths (job : DataTableJob) (name : String) : List Path :=
  ([.data, .code].filter (Artifact.isRequested job)).map (Artifact.path job name)

/-- Whether no other table of a batch makes a file where a table reads or makes one. -/
def Undisturbed (job : DataTableJob) (names : List String) (name : String) (t : Tree) : Prop :=
  ∀ other ∈ names, other ≠ name →
    Avoid (sourcePaths job name ++ targetPaths job name) (IsAt (targetPaths job other) t) t

lemma mem_targetPaths {job : DataTableJob} {name : String} {p : Path} :
    p ∈ targetPaths job name ↔ ∃ a : Artifact, a.isRequested job = true ∧ a.path job name = p := by
  unfold targetPaths
  rw [List.mem_map]
  refine exists_congr fun a => and_congr_left fun _ => ?_
  cases a <;> simp

variable [FileSystem (StateM σ)]

/-- What a batch does before its first table. -/
def prepare (job : DataTableJob) : Task (StateM σ) Unit := do
  if job.targets.includesData then ensureDirectory job.settings.dataTables.outputDirectory
  if job.targets.includesCode then ensureDirectory job.settings.code.directory

/-- The state in which the first table is processed. -/
def prepared (job : DataTableJob) (s : σ) : σ := (outcome (prepare job) s).2

lemma run_eq (job : DataTableJob) (names : List String) :
    (job.run names : Task (StateM σ) Report) =
      prepare job >>= fun _ =>
        liftM (Batch.run "data table" job.process names : StateM σ Report) := by
  unfold DataTableJob.run prepare
  cases job.targets <;> simp [Targets.includesData, Targets.includesCode]

variable {s s' : σ} {job : DataTableJob} {name : String} {table : DataTable}

/-! ### How a table fails -/

lemma result_checkNames (name : String) (table : DataTable) (s : σ) :
    (outcome (checkNames name table : Task (StateM σ) Unit) s).1 = (do
      let errors := errorFindings (← table.schema).lint
      if errors.isEmpty then return else throw (.identifier (.findings errors))) := by
  unfold checkNames
  cases hschema : table.schema with
  | error e => rfl
  | ok schema =>
    rw [outcome_bind_ok (outcome_ofExcept _ s)]
    rw [outcome_bind_ok (Prod.ext (result_forIn (fun f s => ?_) s) rfl)]
    · change (outcome (if !(errorFindings schema.lint).isEmpty then _ else _) _).1 =
        if (errorFindings schema.lint).isEmpty then _ else _
      cases (errorFindings schema.lint).isEmpty <;> rfl
    · split <;> rfl

lemma failsAs_makeData {bytes : List UInt8} (h : table.encodeRows = .ok bytes) (s : σ) :
    FailsAs IsFileError (job.makeData name table) s := by
  unfold DataTableJob.makeData
  exact failsAs_bind (failsAs_writeArtifact h _ s) fun _ _ => failsAs_lift _

lemma failsAs_makeCode {bytes : List UInt8} (h : codeBytes job name table s = .ok bytes) :
    FailsAs IsFileError (job.makeCode name table) s := by
  obtain ⟨template, htemplate, hcode⟩ := bind_eq_ok.mp h
  obtain ⟨code, hemit, -⟩ := bind_eq_ok.mp hcode
  unfold DataTableJob.makeCode
  refine failsAs_bind (failsAs_orDiscard ?_) fun _ _ => failsAs_lift _
  refine failsAs_bind_ok (Prod.ext htemplate rfl) ?_
  exact failsAs_bind_ok (Prod.ext ((congrArg Prod.fst (outcome_ofExcept _ _)).trans hemit) rfl)
    (failsAs_replaceFile _ _)

variable [TreeSystem σ]

/-! ### What one table changes -/

lemma changes_process (job : DataTableJob) (name : String) (s : σ) :
    Changes (IsAt (targetPaths job name) (tree s)) (tree s)
      (tree (outcome (job.process name) s).2) := by
  have hplaces : ∀ l, (job.targets.includesData = true ∧
      (tree s).locate (Artifact.data.path job name) = .ok l) ∨ (job.targets.includesCode = true ∧
        (tree s).locate (Artifact.code.path job name) = .ok l) →
      IsAt (targetPaths job name) (tree s) l := by
    rintro l (⟨hwanted, hl⟩ | ⟨hwanted, hl⟩)
    · exact ⟨_, mem_targetPaths.mpr ⟨.data, hwanted, rfl⟩, hl⟩
    · exact ⟨_, mem_targetPaths.mpr ⟨.code, hwanted, rfl⟩, hl⟩
  apply changes_mono _ hplaces
  rcases hopen : outcome (job.openTable name) s with ⟨result, s'⟩
  cases result with
  | error e =>
    rw [process_refused hopen, run_discardAll]
    exact changes_both (untouched_of_openTable hopen)
      (settled_discardIf _ _ (fun _ => True) s') (settled_discardIf _ _ (fun _ => True) _)
  | ok table =>
    exact changes_congr (untouched_refl _) (changes_both (untouched_of_openTable hopen)
      (settled_attempted _ (ends_makeData job name table s'))
      (settled_attempted _ (ends_makeCode job name table (behindData job name table s'))))
      (process_opened hopen).2

lemma confined_dataTables (job : DataTableJob) :
    Confined (targetPaths job) (job.process : String → Task (StateM σ) Unit) :=
  changes_process job

/-! ### What a table that succeeds leaves -/

lemma exists_opened (hok : (outcome (job.process name) s).1 = .ok ()) :
    ∃ table s₁, outcome (job.openTable name) s = (.ok table, s₁) ∧
      (attempted job.targets.includesData (job.makeData name table) s₁).1 = .ok () ∧
      (attempted job.targets.includesCode (job.makeCode name table)
        (behindData job name table s₁)).1 = .ok () := by
  rcases hopen : outcome (job.openTable name) s with ⟨result, s₁⟩
  cases result with
  | error e =>
    rw [process_refused hopen] at hok
    cases hok
  | ok table =>
    rw [(process_opened hopen).1] at hok
    obtain ⟨_, hdata, hcode⟩ := bind_eq_ok.mp hok
    exact ⟨table, s₁, rfl, hdata, hcode⟩

lemma isFile_of_process (hok : (outcome (job.process name) s).1 = .ok ()) (a : Artifact)
    (ha : a.isRequested job = true) :
    (tree (outcome (job.process name) s).2).isFile (a.path job name) = true := by
  obtain ⟨table, s₁, hopen, hdata, hcode⟩ := exists_opened hok
  have hend : Changes (fun _ => False) _ _ := changes_of_untouched (process_opened hopen).2
  apply (isFile_of_changes hend fun _ _ => not_false).mpr
  have hmadeCode := ends_makeCode job name table (behindData job name table s₁)
  cases a with
  | data =>
    have hmadeData := ends_makeData job name table s₁
    exact isFile_of_attempted hmadeCode hcode
      (isFile_of_replaced (replaced_of_attempted hmadeData hdata ha))
  | code => exact isFile_of_replaced (replaced_of_attempted hmadeCode hcode ha)

/-! ### One table in two states -/

section TwoStates

variable {σ : Type} [FileSystem (StateM σ)] [ReadableSystem σ] {s s' : σ} {job : DataTableJob}
  {name : String} {table : DataTable} {paths : List Path} {places : Location → Prop}

lemma dependsOn_checkNames (name : String) (table : DataTable) :
    DependsOn paths (checkNames name table : Task (StateM σ) Unit) :=
  dependsOn_of_result (result_checkNames name table)

lemma dependsOn_openTable (job : DataTableJob) (name : String) :
    DependsOn [job.settings.dataTables.sourcePath name]
      (job.openTable name : Task (StateM σ) DataTable) := by
  unfold DataTableJob.openTable DataTable.read
  refine dependsOn_bind (dependsOn_bind (dependsOn_readGrid _ _) (quiet_readGrid _ _)
    fun _ => dependsOn_ofExcept _) ?_ fun table => ?_
  · exact quiet_bind (quiet_readGrid _ _) fun _ => quiet_ofExcept _
  · exact dependsOn_bind (dependsOn_checkNames name table) (quiet_checkNames name table)
      fun _ => dependsOn_pure _

lemma dependsOn_readTemplate (template : Option Path) :
    DependsOn template.toList (readTemplate template : Task (StateM σ) String) := by
  cases template with
  | none => exact dependsOn_pure _
  | some p =>
    intro s s' places text hchanges havoid hok
    unfold readTemplate at hok ⊢
    rw [result_located, mapError_eq_ok] at hok ⊢
    exact readText_eq hchanges havoid hok

lemma codeBytes_of_changes (hchanges : Changes places (tree s) (tree s'))
    (havoid : Avoid job.settings.code.template.toList places (tree s)) {bytes : List UInt8}
    (h : codeBytes job name table s = .ok bytes) : codeBytes job name table s' = .ok bytes := by
  obtain ⟨template, htemplate, hcode⟩ := bind_eq_ok.mp h
  exact bind_eq_ok.mpr ⟨template, dependsOn_readTemplate _ hchanges havoid htemplate, hcode⟩

/-- A table that succeeds in one state succeeds in any that differs at none of its places, unless the
system refuses a file, and then the states still differ at no others. -/
theorem process_of_changes (hchanges : Changes places (tree s) (tree s'))
    (havoid : Avoid (sourcePaths job name ++ targetPaths job name) places (tree s))
    (hok : (outcome (job.process name) s).1 = .ok ()) :
    (∃ e, IsFileError e ∧ (outcome (job.process name) s').1 = .error e) ∨
    (outcome (job.process name) s').1 = .ok () ∧
      Changes places (tree (outcome (job.process name) s).2)
        (tree (outcome (job.process name) s').2) := by
  obtain ⟨table, s₁, hopen, hdata, hcode⟩ := exists_opened hok
  have hopened : (outcome (job.openTable name) s').1 = .ok table :=
    dependsOn_openTable job name hchanges (avoid_mono havoid (by simp [sourcePaths])) (by rw [hopen])
  rcases hopen' : outcome (job.openTable name) s' with ⟨result, s₁'⟩
  obtain rfl : result = .ok table := by rwa [hopen'] at hopened
  have hstart := changes_between hchanges (untouched_of_openTable hopen)
    (untouched_of_openTable hopen')
  obtain ⟨-, hend⟩ := process_opened hopen
  obtain ⟨hresult, hend'⟩ := process_opened hopen'
  have hmadeData := ends_makeData job name table s₁
  have hmadeCode := ends_makeCode job name table (behindData job name table s₁)
  have hmadeData' := ends_makeData job name table s₁'
  have hmadeCode' := ends_makeCode job name table (behindData job name table s₁')
  rw [hresult]
  -- What is made is the same in both states, so only replacing a file can go otherwise.
  cases hdata' : (attempted job.targets.includesData (job.makeData name table) s₁').1 with
  | error e =>
    refine Or.inl ⟨e, error_of_attempted (fun hwanted => ?_) hdata', rfl⟩
    obtain ⟨l, bytes, hbytes, -⟩ := replaced_of_attempted hmadeData hdata hwanted
    exact failsAs_makeData hbytes s₁'
  | ok u =>
    have hmiddle := changes_attempted hstart hmadeData hmadeData' hdata hdata' fun _ _ h => h
    have hbytes : job.targets.includesCode = true → ∀ bytes,
        codeBytes job name table (behindData job name table s₁) = .ok bytes →
          codeBytes job name table (behindData job name table s₁') = .ok bytes := by
      intro hwanted bytes
      apply codeBytes_of_changes hmiddle
      have htemplate : Avoid job.settings.code.template.toList places (tree s) :=
        avoid_mono havoid (by simp [sourcePaths, hwanted])
      exact avoid_of_changes (avoid_of_untouched htemplate (untouched_of_openTable hopen))
        (settled_attempted _ hmadeData).changes
    cases hcode' : (attempted job.targets.includesCode (job.makeCode name table)
        (behindData job name table s₁')).1 with
    | error e =>
      refine Or.inl ⟨e, error_of_attempted (fun hwanted => ?_) hcode', hcode'⟩
      obtain ⟨l, bytes, hmade, -⟩ := replaced_of_attempted hmadeCode hcode hwanted
      exact failsAs_makeCode (hbytes hwanted bytes hmade)
    | ok u' =>
      exact Or.inr ⟨hcode', changes_between (changes_attempted hmiddle hmadeCode hmadeCode' hcode
        hcode' hbytes) hend hend'⟩

/-! ### A table in a batch and alone -/

/-- Whether the artifacts of a table are, in a state, those of a batch of this table alone. The
system may refuse to make the latter. -/
def IsAsAlone (job : DataTableJob) (name : String) (s s' : σ) : Prop :=
  ∃ report alone, outcome (job.run [name]) s = (.ok report, alone) ∧
    ((∃ e, IsFileError e ∧ report = ⟨[], [⟨name, e⟩]⟩) ∨
      report = ⟨[name], []⟩ ∧ ∀ a : Artifact, a.isRequested job = true → ∃ bytes,
        (tree alone).readBytes (a.path job name) = .ok bytes ∧
          (tree s').readBytes (a.path job name) = .ok bytes)

/-- A batch accounts for every table, and the tables that succeed have the artifacts that each of
them has alone, provided that no other table makes a file where such a table reads or makes one. -/
theorem isAsAlone_of_succeeded (job : DataTableJob) {names : List String} (hnodup : names.Nodup)
    {report : Report} (h : outcome (job.run names) s = (.ok report, s')) :
    Accounts names report ∧ ∀ name ∈ report.succeeded,
      Undisturbed job names name (tree (prepared job s)) → IsAsAlone job name s s' := by
  rw [run_eq] at h
  obtain ⟨hready, done, hrun, hdone⟩ := runEach_of_outcome h
  refine ⟨accounts_runEach hrun, fun name hname hundisturbed => ?_⟩
  obtain ⟨before, after, found, hturn, hok⟩ :=
    exists_turn (confined_dataTables job) hrun name (.ok ()) hname
  obtain ⟨hbefore, hafter⟩ := avoid_of_turn hnodup hturn hundisturbed
  obtain ⟨start, alone, hstart, halone, hend⟩ :=
    outcome_of_single hready "data table" job.process name
  rw [← run_eq] at halone
  have hfound : Changes _ (tree found) (tree start) :=
    changes_congr (untouched_refl _) (changes_symm hturn.start) hstart
  refine ⟨_, alone, halone, ?_⟩
  rcases process_of_changes hfound (avoid_of_changes hbefore hturn.start) hok with
    ⟨e, hfile, he⟩ | ⟨hok', hchanges⟩
  · exact Or.inl ⟨e, hfile, by rw [he]; rfl⟩
  · refine Or.inr ⟨by rw [hok']; rfl, fun a ha => ?_⟩
    obtain ⟨bytes, hbytes⟩ := isFile_iff_readBytes.mp (isFile_of_process hok a ha)
    have hpath : a.path job name ∈ sourcePaths job name ++ targetPaths job name :=
      List.mem_append_right _ (mem_targetPaths.mpr ⟨a, ha, rfl⟩)
    -- What the table has left is what the rest of the batch finds, and what it leaves alone.
    have hleft : ∀ {others}, Avoid (sourcePaths job name ++ targetPaths job name) others
        (tree (prepared job s)) → ∀ l,
          (tree (outcome (job.process name) found).2).locate (a.path job name) = .ok l → ¬others l :=
      fun hothers => avoid_of_changes (avoid_of_changes hothers hturn.start)
        (changes_process job name found) _ hpath
    refine ⟨bytes, ?_, ?_⟩
    · exact (readBytes_of_changes (changes_congr (untouched_refl _) hchanges hend)
        (hleft hbefore)).mpr hbytes
    · exact (readBytes_of_changes (changes_congr (untouched_refl _) hturn.finish hdone)
        (hleft hafter)).mpr hbytes

end TwoStates

theorem isAsAlone_of_succeeded_hero :
    let job := heroJob ⟨["code"]⟩
    ∃ report s', outcome (job.run ["hero", "villain"]) heroFiles = (.ok report, s') ∧
      report.succeeded = ["hero"] ∧ Accounts ["hero", "villain"] report ∧
      Undisturbed job ["hero", "villain"] "hero" (tree (prepared job heroFiles)) ∧
      IsAsAlone job "hero" heroFiles s' := by
  intro job
  have hplaces : ∀ other ∈ ["hero", "villain"], other ≠ "hero" →
      ∀ p ∈ sourcePaths job "hero" ++ targetPaths job "hero", ∀ q ∈ targetPaths job other,
        ((tree (prepared job heroFiles)).locate p).toOption ≠
          ((tree (prepared job heroFiles)).locate q).toOption := by decide +kernel
  have hnames : (outcome (job.run ["hero", "villain"]) heroFiles).1.toOption.map
      Report.succeeded = some ["hero"] := by decide +kernel
  rcases hrun : outcome (job.run ["hero", "villain"]) heroFiles with ⟨result, s'⟩
  rw [hrun] at hnames
  obtain ⟨report, hreport, hsucceeded⟩ := Option.map_eq_some_iff.mp hnames
  obtain rfl := toOption_eq_some.mp hreport
  have hundisturbed : Undisturbed job ["hero", "villain"] "hero" (tree (prepared job heroFiles)) :=
    fun other hother hne => avoid_of_ne (hplaces other hother hne)
  obtain ⟨haccounts, halone⟩ := isAsAlone_of_succeeded job (by decide) hrun
  exact ⟨report, s', rfl, hsucceeded, haccounts, hundisturbed,
    halone "hero" (by simp [hsucceeded]) hundisturbed⟩

/-- Two names may stand for one file of code, and then a table that fails discards the code of one
that has succeeded. -/
theorem not_isAsAlone_of_nodup : ¬∀ (job : DataTableJob) (names : List String) (s s' : Sandbox)
    (report : Report), names.Nodup → outcome (job.run names) s = (.ok report, s') →
      ∀ name ∈ report.succeeded, IsAsAlone job name s s' := by
  intro h
  have hnames : (outcome ((heroJob ⟨["code"]⟩).run ["hero", "Hero"]) heroFiles).1.toOption.map
      Report.succeeded = some ["hero"] := by decide +kernel
  have hfile : (tree (outcome ((heroJob ⟨["code"]⟩).run ["hero", "Hero"]) heroFiles).2).isFile
      (Artifact.code.path (heroJob ⟨["code"]⟩) "hero") = false := by decide +kernel
  have hsingle : (outcome ((heroJob ⟨["code"]⟩).run ["hero"]) heroFiles).1.toOption.map
      Report.succeeded = some ["hero"] := by decide +kernel
  rcases hrun : outcome ((heroJob ⟨["code"]⟩).run ["hero", "Hero"]) heroFiles with ⟨result, s'⟩
  rw [hrun] at hnames hfile
  obtain ⟨report, hreport, hsucceeded⟩ := Option.map_eq_some_iff.mp hnames
  obtain rfl := toOption_eq_some.mp hreport
  obtain ⟨single, alone, halone, hends⟩ :=
    h _ ["hero", "Hero"] heroFiles s' report (by decide) hrun "hero" (by simp [hsucceeded])
  rw [halone] at hsingle
  rcases hends with ⟨e, -, rfl⟩ | ⟨-, hartifacts⟩
  · simp [Except.toOption] at hsingle
  · obtain ⟨bytes, -, hbytes⟩ := hartifacts .code rfl
    rw [isFile_iff_readBytes.mpr ⟨bytes, hbytes⟩] at hfile
    cases hfile

end TypedTables.Proofs
