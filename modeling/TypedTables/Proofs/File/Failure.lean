import TypedTables.Proofs.File.System

/-!
# How work fails

Which errors a piece of work can end with. Replacing a file fails with a fault of the file system
and nothing else.
-/

namespace TypedTables.Proofs

open FileSystem (located replaceFile)

variable {σ α β : Type} {P : TableError → Prop}

/-- Whether an error says why a table cannot be set up. -/
def IsSetupError (e : TableError) : Prop := ∃ cause, e = .configuration cause

/-- Whether an error is a fault of the file system. -/
def IsFileError (e : TableError) : Prop := ∃ p fault, e = .file p fault

/-- Whether work fails with errors of one sort only. -/
def FailsAs (P : TableError → Prop) (work : Task (StateM σ) α) (s : σ) : Prop :=
  ∀ e, (outcome work s).1 = .error e → P e

variable {s s' : σ}

lemma failsAs_throw {e : TableError} (h : P e) : FailsAs P (throw e : Task (StateM σ) α) s := by
  intro e' he'
  rw [outcome_throw] at he'
  exact Except.error.inj he' ▸ h

lemma failsAs_pure (a : α) : FailsAs P (pure a : Task (StateM σ) α) s := by
  intro e he
  cases he

lemma failsAs_lift (action : StateM σ α) : FailsAs P (liftM action : Task (StateM σ) α) s := by
  intro e he
  rw [outcome_lift] at he
  cases he

lemma failsAs_ofExcept {x : Except TableError α} (h : ∀ e, x = .error e → P e) :
    FailsAs P (ofExcept x : Task (StateM σ) α) s := by
  intro e he
  rw [outcome_ofExcept] at he
  exact h e he

lemma failsAs_bind_ok {work : Task (StateM σ) α} {f : α → Task (StateM σ) β} {a : α}
    (h : outcome work s = (.ok a, s')) (hf : FailsAs P (f a) s') : FailsAs P (work >>= f) s := by
  intro e he
  rw [outcome_bind_ok h] at he
  exact hf e he

lemma failsAs_bind {work : Task (StateM σ) α} {f : α → Task (StateM σ) β} (h : FailsAs P work s)
    (hf : ∀ a s', FailsAs P (f a) s') : FailsAs P (work >>= f) s := by
  rcases hending : outcome work s with ⟨result, s'⟩
  cases result with
  | ok a => exact failsAs_bind_ok hending (hf a s')
  | error e' =>
    intro e he
    rw [outcome_bind_error hending] at he
    exact h e (by rw [hending, Except.error.inj he])

lemma failsAs_throw_bind {e : TableError} (h : P e) (f : α → Task (StateM σ) β) :
    FailsAs P ((throw e : Task (StateM σ) α) >>= f) s := by
  intro e' he'
  rw [outcome_bind_error (outcome_throw e s)] at he'
  exact Except.error.inj he' ▸ h

lemma failsAs_tryCatch {work : Task (StateM σ) α} {handle : TableError → Task (StateM σ) α}
    (h : FailsAs P work s) (hhandle : ∀ e s', P e → FailsAs P (handle e) s') :
    FailsAs P (tryCatch work handle) s := by
  intro e he
  rcases hending : outcome work s with ⟨result, s'⟩
  cases result with
  | ok a =>
    rw [outcome_tryCatch_ok hending] at he
    cases he
  | error e' =>
    rw [outcome_tryCatch_error hending] at he
    exact hhandle e' s' (h e' (by rw [hending])) e he

lemma failsAs_located (p : Path) (operation : StateM σ (Except FileFault α)) :
    FailsAs IsFileError (located p operation) s := by
  intro e he
  rw [result_located] at he
  cases hresult : (StateT.run operation s).1 with
  | ok a =>
    rw [hresult] at he
    cases he
  | error fault =>
    rw [hresult] at he
    exact ⟨p, fault, (Except.error.inj he).symm⟩

variable [FileSystem (StateM σ)]

lemma failsAs_replaceFile (p : Path) (bytes : List UInt8) :
    FailsAs IsFileError (replaceFile p bytes : Task (StateM σ) Unit) s := by
  unfold replaceFile
  refine failsAs_bind (failsAs_located _ _) fun temporary s₁ => ?_
  refine failsAs_tryCatch (failsAs_bind (failsAs_located _ _) fun _ _ => failsAs_located _ _) ?_
  exact fun e s₂ he => failsAs_bind (failsAs_lift _) fun _ _ => failsAs_throw he

end TypedTables.Proofs
