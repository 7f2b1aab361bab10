import TypedTables.Proofs.File.Failure
import TypedTables.Proofs.File.Reading
import TypedTables.Proofs.Table.Dictionary
import TypedTables.Table.Open

/-!
# Opening tables

Opening a table changes no file, depends on its source alone, and fails because the table cannot be
set up.
-/

namespace TypedTables.Proofs

variable {σ : Type} [FileSystem (StateM σ)]

/-! ### Sources -/

lemma isSetupError_of_ofSource {source : String} {trimChars : List Char} {e : TableError}
    (h : Grid.ofSource source trimChars = .error e) : IsSetupError e := by
  unfold Grid.ofSource Grid.ofRows at h
  split at h
  · cases h
  · exact ⟨_, (Except.error.inj h).symm⟩

lemma failsAs_readGrid (p : Path) (trimChars : List Char) (s : σ) :
    FailsAs IsSetupError (Grid.read p trimChars : Task (StateM σ) Grid) s := by
  unfold Grid.read
  refine failsAs_bind (failsAs_lift _) fun isFile _ => ?_
  dsimp only
  split
  · exact failsAs_throw_bind ⟨_, rfl⟩ _
  · refine failsAs_bind (failsAs_lift _) fun source _ => ?_
    cases source with
    | ok source => exact failsAs_ofExcept fun e => isSetupError_of_ofSource
    | error fault => exact failsAs_throw ⟨_, rfl⟩

lemma quiet_readGrid [TreeSystem σ] (p : Path) (trimChars : List Char) :
    Quiet (Grid.read p trimChars : Task (StateM σ) Grid) := by
  unfold Grid.read
  apply quiet_bind (quiet_lift fun s => TreeSystem.isFile p s)
  intro isFile
  dsimp only
  split
  · exact quiet_throw_bind _ _
  · apply quiet_bind (quiet_lift fun s => untouched_readText p s)
    intro source
    cases source with
    | ok source => exact quiet_ofExcept _
    | error fault => exact quiet_throw _

lemma dependsOn_readGrid [ReadableSystem σ] (p : Path) (trimChars : List Char) :
    DependsOn [p] (Grid.read p trimChars : Task (StateM σ) Grid) := by
  unfold Grid.read
  apply dependsOn_bind (dependsOn_isFile List.mem_cons_self)
    (quiet_lift fun s => TreeSystem.isFile p s)
  intro isFile
  dsimp only
  split
  · exact dependsOn_throw_bind _ _
  · apply dependsOn_readText List.mem_cons_self
    · intro fault s grid
      simp
    · intro text
      exact dependsOn_ofExcept _

/-! ### Dictionaries -/

lemma isSetupError_of_ofGrid {grid : Grid} {layout : DictionaryLayout} {e : TableError}
    (h : Dictionary.ofGrid grid layout = .error e) : IsSetupError e := by
  unfold Dictionary.ofGrid Grid.checkHeaderRow Grid.checkContentStart at h
  by_cases hname : layout.nameRow < grid.rowCount
  · by_cases hstart : layout.contentStartRow ≤ grid.rowCount
    · simp only [if_pos hname, if_pos hstart] at h
      cases h
    · simp only [if_pos hname, if_neg hstart] at h
      exact ⟨_, (Except.error.inj h).symm⟩
  · simp only [if_neg hname] at h
    exact ⟨_, (Except.error.inj h).symm⟩

variable (p : Path) (trimChars : List Char) (layout : DictionaryLayout)

lemma failsAs_readDictionary (s : σ) :
    FailsAs IsSetupError (Dictionary.read p trimChars layout : Task (StateM σ) Dictionary) s :=
  failsAs_bind (failsAs_readGrid p trimChars s) fun _ _ =>
    failsAs_ofExcept fun _ => isSetupError_of_ofGrid

lemma quiet_readDictionary [TreeSystem σ] :
    Quiet (Dictionary.read p trimChars layout : Task (StateM σ) Dictionary) :=
  quiet_bind (quiet_readGrid p trimChars) fun _ => quiet_ofExcept _

/-- A dictionary that has been opened can be written. -/
lemma exists_encodeRows_of_read {d : Dictionary} {s s' : σ}
    (h : outcome (Dictionary.read p trimChars layout) s = (.ok d, s')) :
    ∃ bytes, d.encodeRows = .ok bytes := by
  unfold Dictionary.read at h
  rcases hgrid : outcome (Grid.read p trimChars : Task (StateM σ) Grid) s with ⟨result, next⟩
  cases result with
  | error e =>
    rw [outcome_bind_error hgrid] at h
    cases h
  | ok grid =>
    rw [outcome_bind_ok hgrid, outcome_ofExcept] at h
    exact exists_encodeRows (Prod.mk.inj h).1

end TypedTables.Proofs
