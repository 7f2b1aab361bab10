import TypedTables.File.Sandbox
import TypedTables.Proofs.File.Reading

/-!
# Sandboxes as systems

A sandbox shows its tree, and each of its operations does to the tree what systems must do.
-/

namespace TypedTables.Proofs

variable {s : Sandbox}

/-- What a change comes to where the operation cannot be done or does what it should. -/
lemma ends_change {operation : Tree → Except FileFault Tree} {success failure : Tree → Prop}
    (hok : ∀ t, operation s.tree = .ok t → success t)
    (herror : ∀ fault, operation s.tree = .error fault → failure s.tree) :
    Ends Sandbox.tree (fun _ => success) failure (StateT.run (Sandbox.change operation) s) := by
  cases hoperation : operation s.tree with
  | ok t =>
    have hrun : StateT.run (Sandbox.change operation) s = (.ok (), { s with tree := t }) := by
      simp only [Sandbox.change, StateT.run, hoperation]
    rw [hrun]
    exact hok t hoperation
  | error fault =>
    have hrun : StateT.run (Sandbox.change operation) s = (.error fault, s) := by
      simp only [Sandbox.change, StateT.run, hoperation]
    rw [hrun]
    exact herror fault hoperation

lemma ends_createTemporary (directory : Path) (s : Sandbox) :
    Ends Sandbox.tree (fun p => Pending p (fun _ => True) s.tree) (Untouched s.tree)
      (StateT.run (Sandbox.createTemporary directory) s) := by
  cases hcreate : s.tree.createTemporary directory with
  | ok made =>
    have hrun : StateT.run (Sandbox.createTemporary directory) s =
        (.ok made.1, { s with tree := made.2 }) := by
      simp only [Sandbox.createTemporary, StateT.run, hcreate]
    rw [hrun]
    exact pending_of_createTemporary hcreate
  | error fault =>
    have hrun : StateT.run (Sandbox.createTemporary directory) s = (.error fault, s) := by
      simp only [Sandbox.createTemporary, StateT.run, hcreate]
    rw [hrun]
    exact untouched_refl _

/-- Sandboxes are such systems. -/
instance : TreeSystem Sandbox where
  tree := Sandbox.tree
  isFile _ _ := untouched_refl _
  isDirectory _ _ := untouched_refl _
  readBytes _ _ := untouched_refl _
  log _ _ := untouched_refl _
  createTemporary := ends_createTemporary
  writeBytes p bytes s hfile := by
    apply ends_change (fun t => replaced_of_writeBytes)
    intro fault herror
    obtain ⟨t, ht⟩ := writeBytes_of_isFile hfile bytes
    rw [herror] at ht
    simp at ht
  rename source target s := ends_change (fun t => moved_of_rename) fun _ _ => untouched_refl _
  remove p s := by
    have hremove : Ends Sandbox.tree (fun _ => Cleared p s.tree) (Cleared p s.tree)
        (StateT.run (FileSystem.remove p : Sandboxed _) s) :=
      ends_change (fun t => cleared_of_remove) fun fault => cleared_of_remove_error
    rcases hrun : StateT.run (FileSystem.remove p : Sandboxed _) s with ⟨result, s'⟩
    rw [hrun] at hremove
    cases result <;> exact hremove
  createDirectory p s :=
    ends_change (fun t => grown_of_createDirectory) fun _ _ => untouched_refl _

instance : ReadableSystem Sandbox where
  isFile_eq hchanges havoid :=
    Bool.eq_iff_iff.mpr (isFile_of_changes hchanges (havoid _ List.mem_cons_self))
  readBytes_eq hchanges havoid h :=
    (readBytes_of_changes hchanges (havoid _ List.mem_cons_self)).mpr h

end TypedTables.Proofs
