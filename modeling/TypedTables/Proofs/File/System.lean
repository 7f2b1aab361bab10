import TypedTables.File.System
import TypedTables.Proofs.File.Tree

/-!
# Work on files

How work ends on any system whose states show a tree of files. Operations may fail for reasons that
the tree does not show, and a file may be written in part. Replacing a file still either succeeds or
changes nothing, discarding a file leaves none, and making directories changes no file.
-/

namespace TypedTables.Proofs

open FileSystem (replaceFile discard located)

variable {σ α β ε : Type}

/-- What work has come to: success says what holds of the value and the tree, failure what holds of
the tree. -/
def Ends (tree : σ → Tree) (success : α → Tree → Prop) (failure : Tree → Prop)
    (ending : Except ε α × σ) : Prop :=
  match ending.1 with
  | .ok a => success a (tree ending.2)
  | .error _ => failure (tree ending.2)

/-- Systems whose states show a tree of files. Temporary files are made where nothing is, a file
takes another path as a whole or not at all, files can be removed, and a directory is made where
nothing is. -/
class TreeSystem (σ : Type) [FileSystem (StateM σ)] where
  tree : σ → Tree
  isFile : ∀ (p : Path) (s : σ),
    Untouched (tree s) (tree (StateT.run (FileSystem.isFile p : StateM σ _) s).2)
  isDirectory : ∀ (p : Path) (s : σ),
    Untouched (tree s) (tree (StateT.run (FileSystem.isDirectory p : StateM σ _) s).2)
  readBytes : ∀ (p : Path) (s : σ),
    Untouched (tree s) (tree (StateT.run (FileSystem.readBytes p : StateM σ _) s).2)
  log : ∀ (line : LogLine) (s : σ),
    Untouched (tree s) (tree (StateT.run (FileSystem.log line : StateM σ _) s).2)
  createTemporary : ∀ (directory : Path) (s : σ),
    Ends tree (fun p => Pending p (fun _ => True) (tree s)) (Untouched (tree s))
      (StateT.run (FileSystem.createTemporary directory : StateM σ _) s)
  writeBytes : ∀ (p : Path) (bytes : List UInt8) (s : σ), (tree s).isFile p = true →
    Ends tree (fun _ => Replaced p (· = bytes) (tree s)) (Replaced p (fun _ => True) (tree s))
      (StateT.run (FileSystem.writeBytes p bytes : StateM σ _) s)
  rename : ∀ (source target : Path) (s : σ),
    Ends tree (fun _ => Moved source target (tree s)) (Untouched (tree s))
      (StateT.run (FileSystem.rename source target : StateM σ _) s)
  remove : ∀ (p : Path) (s : σ),
    Cleared p (tree s) (tree (StateT.run (FileSystem.remove p : StateM σ _) s).2)
  createDirectory : ∀ (p : Path) (s : σ),
    Ends tree (fun _ => Grown (tree s)) (Untouched (tree s))
      (StateT.run (FileSystem.createDirectory p : StateM σ _) s)

open TreeSystem (tree)

/-- The result of work, and the state behind it. -/
def outcome (work : Task (StateM σ) α) (s : σ) : Except TableError α × σ :=
  StateT.run (ExceptT.run work) s

/-! ### Single steps -/

@[simp] lemma outcome_throw (e : TableError) (s : σ) :
    outcome (throw e : Task (StateM σ) α) s = (.error e, s) := rfl

@[simp] lemma outcome_ofExcept (x : Except TableError α) (s : σ) :
    outcome (ofExcept x : Task (StateM σ) α) s = (x, s) := by
  cases x <;> rfl

lemma outcome_lift (action : StateM σ α) (s : σ) :
    outcome (liftM action : Task (StateM σ) α) s =
      (.ok (StateT.run action s).1, (StateT.run action s).2) := rfl

lemma result_located (p : Path) (operation : StateM σ (Except FileFault α)) (s : σ) :
    (outcome (located p operation) s).1 = (StateT.run operation s).1.mapError (.file p) := rfl

lemma outcome_bind_ok {work : Task (StateM σ) α} {f : α → Task (StateM σ) β} {a : α} {s s' : σ}
    (h : outcome work s = (.ok a, s')) : outcome (work >>= f) s = outcome (f a) s' := by
  unfold outcome at h ⊢
  rw [ExceptT.run_bind, StateT.run_bind, h]
  rfl

lemma outcome_bind_error {work : Task (StateM σ) α} {f : α → Task (StateM σ) β} {e : TableError}
    {s s' : σ} (h : outcome work s = (.error e, s')) :
    outcome (work >>= f) s = (.error e, s') := by
  unfold outcome at h ⊢
  rw [ExceptT.run_bind, StateT.run_bind, h]
  rfl

lemma outcome_bind_eq_ok {work : Task (StateM σ) α} {f : α → Task (StateM σ) β} {b : β} {s s'' : σ}
    (h : outcome (work >>= f) s = (.ok b, s'')) :
    ∃ a s', outcome work s = (.ok a, s') ∧ outcome (f a) s' = (.ok b, s'') := by
  rcases hending : outcome work s with ⟨result, s'⟩
  cases result with
  | ok a => exact ⟨a, s', rfl, (outcome_bind_ok hending).symm.trans h⟩
  | error e =>
    rw [outcome_bind_error hending] at h
    cases h

lemma outcome_tryCatch_ok {work : Task (StateM σ) α} {handle : TableError → Task (StateM σ) α}
    {a : α} {s s' : σ} (h : outcome work s = (.ok a, s')) :
    outcome (tryCatch work handle) s = (.ok a, s') := by
  unfold outcome at h ⊢
  rw [ExceptT.run_tryCatch, StateT.run_bind, h]
  rfl

lemma outcome_tryCatch_error {work : Task (StateM σ) α}
    {handle : TableError → Task (StateM σ) α} {e : TableError} {s s' : σ}
    (h : outcome work s = (.error e, s')) :
    outcome (tryCatch work handle) s = outcome (handle e) s' := by
  unfold outcome at h ⊢
  rw [ExceptT.run_tryCatch, StateT.run_bind, h]
  rfl

/-! ### Steps in a row -/

/-- A loop that goes through all its members, whatever each of them does to the state. -/
lemma result_forIn {l : List β} {f : β → PUnit → Task (StateM σ) (ForInStep PUnit)}
    (h : ∀ x s, (outcome (f x ⟨⟩) s).1 = .ok (.yield ⟨⟩)) (s : σ) :
    (outcome (forIn l ⟨⟩ f) s).1 = .ok ⟨⟩ := by
  induction l generalizing s with
  | nil => rfl
  | cons x rest ih =>
    rw [List.forIn_cons, outcome_bind_ok (Prod.ext (h x s) rfl)]
    exact ih _

lemma ends_located {view : σ → Tree} {success : α → Tree → Prop} {failure : Tree → Prop} {p : Path}
    {action : StateM σ (Except FileFault α)} {s : σ}
    (h : Ends view success failure (StateT.run action s)) :
    Ends view success failure (outcome (located p action) s) := by
  unfold outcome located
  rw [ExceptT.run_mk, StateT.run_bind]
  rcases hrun : StateT.run action s with ⟨result, s'⟩
  rw [hrun] at h
  cases result <;> exact h

lemma ends_bind {view : σ → Tree} {middle : α → Tree → Prop} {success : β → Tree → Prop}
    {failure : Tree → Prop} {work : Task (StateM σ) α} {f : α → Task (StateM σ) β} {s : σ}
    (h : Ends view middle failure (outcome work s))
    (hf : ∀ a s', middle a (view s') → Ends view success failure (outcome (f a) s')) :
    Ends view success failure (outcome (work >>= f) s) := by
  rcases hending : outcome work s with ⟨result, s'⟩
  rw [hending] at h
  cases result with
  | ok a =>
    rw [outcome_bind_ok hending]
    exact hf a s' h
  | error e =>
    rw [outcome_bind_error hending]
    exact h

lemma ends_mono {view : σ → Tree} {success success' : α → Tree → Prop}
    {failure failure' : Tree → Prop} {ending : Except ε α × σ}
    (h : Ends view success failure ending) (hsuccess : ∀ a t, success a t → success' a t)
    (hfailure : ∀ t, failure t → failure' t) : Ends view success' failure' ending := by
  rcases ending with ⟨result, s⟩
  cases result with
  | ok a => exact hsuccess a _ h
  | error e => exact hfailure _ h

/-- What a handler does before it passes the error on. -/
lemma ends_tryCatch {view : σ → Tree} {success : α → Tree → Prop} (broken : Tree → Prop)
    {failure : Tree → Prop} {work : Task (StateM σ) α} {cleanup : StateM σ β} {s : σ}
    (h : Ends view success broken (outcome work s))
    (hcleanup : ∀ s', broken (view s') → failure (view (StateT.run cleanup s').2)) :
    Ends view success failure (outcome (tryCatch work fun e => do
      let _ ← cleanup
      throw e) s) := by
  rcases hending : outcome work s with ⟨result, s'⟩
  rw [hending] at h
  cases result with
  | ok a =>
    rw [outcome_tryCatch_ok hending]
    exact h
  | error e =>
    rw [outcome_tryCatch_error hending, outcome_bind_ok (outcome_lift cleanup s')]
    exact hcleanup s' h

/-! ### Files -/

variable [FileSystem (StateM σ)] [TreeSystem σ]

lemma ends_log {success failure : Tree → Prop} {work : Task (StateM σ) α} {line : α → LogLine}
    {s : σ}
    (h : Ends tree (fun _ => success) failure (outcome work s))
    (hsuccess : ∀ t t', success t → Untouched t t' → success t') :
    Ends tree (fun _ => success) failure (outcome (do
      let a ← work
      (FileSystem.log (line a) : StateM σ Unit)) s) := by
  apply ends_bind h
  intro a s' hs'
  rw [outcome_lift]
  exact hsuccess _ _ hs' (TreeSystem.log (line a) s')

/-- Replacing a file leaves no other file behind, whether it succeeds or not. -/
theorem ends_replaceFile (p : Path) (bytes : List UInt8) (s : σ) :
    Ends tree (fun _ => Replaced p (· = bytes) (tree s)) (Untouched (tree s))
      (outcome (replaceFile p bytes) s) := by
  unfold replaceFile
  apply ends_bind (ends_located (TreeSystem.createTemporary p.directory s))
  intro temporary s₁ hmade
  have hwrite : Ends tree (fun _ => Pending temporary (· = bytes) (tree s))
      (Pending temporary (fun _ => True) (tree s))
      (outcome (located temporary (FileSystem.writeBytes temporary bytes)) s₁) := by
    refine ends_mono (ends_located (TreeSystem.writeBytes temporary bytes s₁ ?_)) ?_ ?_
    · exact isFile_of_replaced hmade.1
    · exact fun _ t hwritten => pending_written hmade hwritten
    · exact fun t hwritten => pending_written hmade hwritten
  refine ends_tryCatch (fun t => ∃ content, Pending temporary content (tree s) t)
    (ends_bind (ends_mono hwrite (fun _ _ h => h) fun t h => ⟨_, h⟩) ?_) ?_
  · intro _ s₂ hwritten
    apply ends_mono (ends_located (TreeSystem.rename temporary p s₂))
    · exact fun _ t hmoved => replaced_of_moved hwritten hmoved
    · exact fun t hsame => ⟨_, replaced_congr (untouched_refl _) hwritten.1 hsame, hwritten.2⟩
  · rintro s₂ ⟨content, hpending⟩
    exact untouched_of_cleared hpending (TreeSystem.remove temporary s₂)

/-- Discarding leaves no file at the path. -/
theorem cleared_discard (p : Path) (s : σ) :
    Cleared p (tree s) (tree (StateT.run (discard p : StateM σ Unit) s).2) := by
  unfold FileSystem.discard
  rw [StateT.run_bind]
  have hremove := TreeSystem.remove p s
  rcases hrun : StateT.run (FileSystem.remove p : StateM σ _) s with ⟨result, s'⟩
  rw [hrun] at hremove
  have hlog : ∀ line : LogLine,
      Cleared p (tree s) (tree (StateT.run (FileSystem.log line : StateM σ Unit) s').2) :=
    fun line => cleared_congr (untouched_refl _) hremove (TreeSystem.log line s')
  cases result with
  | ok u => exact hlog _
  | error fault =>
    cases fault with
    | notFound => exact hremove
    | _ => exact hlog _

/-! ### Directories -/

lemma grown_bind {action : StateM σ α} {f : α → StateM σ β} {s : σ}
    (h : Grown (tree s) (tree (StateT.run action s).2))
    (hf : ∀ a s', Grown (tree s') (tree (StateT.run (f a) s').2)) :
    Grown (tree s) (tree (StateT.run (action >>= f) s).2) := by
  rw [StateT.run_bind]
  exact grown_trans h (hf _ _)

lemma grown_createDirectory (p : Path) (s : σ) :
    Grown (tree s) (tree (StateT.run (FileSystem.createDirectory p : StateM σ _) s).2) := by
  have hcreate := TreeSystem.createDirectory p s
  rcases hrun : StateT.run (FileSystem.createDirectory p : StateM σ _) s with ⟨result, s'⟩
  rw [hrun] at hcreate
  cases result with
  | ok u => exact hcreate
  | error fault => exact grown_of_untouched hcreate

lemma grown_createOrKeep (p : Path) (s : σ) :
    Grown (tree s) (tree (StateT.run (FileSystem.createOrKeep p : StateM σ _) s).2) := by
  unfold FileSystem.createOrKeep
  apply grown_bind (grown_createDirectory p s)
  intro result s'
  cases result with
  | ok u => exact grown_refl _
  | error fault =>
    exact grown_bind (grown_of_untouched (TreeSystem.isDirectory p s')) fun _ s'' => grown_refl _

/-- Making a directory with all that it is in makes directories and nothing else, even if it
fails. -/
lemma grown_createAll (depth : Nat) (p : Path) (s : σ) :
    Grown (tree s) (tree (StateT.run (FileSystem.createAll p depth : StateM σ _) s).2) := by
  induction depth generalizing p s with
  | zero => exact grown_createOrKeep p s
  | succ depth ih =>
    unfold FileSystem.createAll
    split
    · exact grown_refl _
    · apply grown_bind (grown_createOrKeep p s)
      intro result s'
      split
      · cases p.parent? with
        | none => exact grown_refl _
        | some parent =>
          apply grown_bind (ih parent s')
          intro result s''
          cases result with
          | ok u => exact grown_createOrKeep p s''
          | error fault => exact grown_refl _
      · exact grown_refl _

lemma grown_ensureDirectory (p : Path) (s : σ) :
    Grown (tree s) (tree (outcome (FileSystem.ensureDirectory p) s).2) := by
  unfold FileSystem.ensureDirectory FileSystem.located outcome
  rw [ExceptT.run_mk, StateT.run_bind]
  exact grown_createAll _ p s

/-! ### Work that changes no file -/

/-- Whether work leaves the tree as it is. -/
def Quiet (work : Task (StateM σ) α) : Prop :=
  ∀ s, Untouched (tree s) (tree (outcome work s).2)

lemma quiet_pure (a : α) : Quiet (pure a : Task (StateM σ) α) := fun _ => untouched_refl _

lemma quiet_throw (e : TableError) : Quiet (throw e : Task (StateM σ) α) := fun _ => untouched_refl _

lemma quiet_ofExcept (x : Except TableError α) : Quiet (ofExcept x : Task (StateM σ) α) := by
  intro s
  rw [outcome_ofExcept]
  exact untouched_refl _

lemma quiet_bind {work : Task (StateM σ) α} {f : α → Task (StateM σ) β} (h : Quiet work)
    (hf : ∀ a, Quiet (f a)) : Quiet (work >>= f) := by
  intro s
  have hwork := h s
  rcases hending : outcome work s with ⟨result, s'⟩
  rw [hending] at hwork
  cases result with
  | ok a =>
    rw [outcome_bind_ok hending]
    exact untouched_trans hwork (hf a s')
  | error e =>
    rw [outcome_bind_error hending]
    exact hwork

lemma quiet_throw_bind (e : TableError) (f : α → Task (StateM σ) β) :
    Quiet ((throw e : Task (StateM σ) α) >>= f) := by
  intro s
  rw [outcome_bind_error (outcome_throw e s)]
  exact untouched_refl _

lemma quiet_lift {action : StateM σ α}
    (h : ∀ s, Untouched (tree s) (tree (StateT.run action s).2)) :
    Quiet (liftM action : Task (StateM σ) α) :=
  fun s => h s

lemma quiet_forIn {l : List β} {a : α} {f : β → α → Task (StateM σ) (ForInStep α)}
    (h : ∀ x a, Quiet (f x a)) : Quiet (forIn l a f) := by
  induction l generalizing a with
  | nil => exact quiet_pure a
  | cons x rest ih =>
    rw [List.forIn_cons]
    apply quiet_bind (h x a)
    intro step
    cases step with
    | done b => exact quiet_pure b
    | yield b => exact ih

lemma untouched_readText (p : Path) (s : σ) :
    Untouched (tree s) (tree (StateT.run (FileSystem.readText p : StateM σ _) s).2) := by
  unfold FileSystem.readText
  rw [StateT.run_bind]
  have hread := TreeSystem.readBytes p s
  rcases hrun : StateT.run (FileSystem.readBytes p : StateM σ _) s with ⟨result, s'⟩
  rw [hrun] at hread
  cases result with
  | error fault => exact hread
  | ok bytes =>
    dsimp only [Id.run, bind, pure]
    split
    · exact hread
    · exact hread

end TypedTables.Proofs
