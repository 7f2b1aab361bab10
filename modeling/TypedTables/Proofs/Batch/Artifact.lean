import TypedTables.Batch.DataTables
import TypedTables.Proofs.File.Failure

/-!
# Steps on one path

A step makes the file of one path or discards it. It may not be asked for, and then nothing happens.
Two steps on paths that lead to different places do not disturb each other.
-/

namespace TypedTables.Proofs

open Batch (orDiscard attempt writeArtifact)
open TreeSystem (tree)

variable {σ α : Type} {p : Path} {t t' : Tree} {fresh : List UInt8 → Prop}

/-! ### What is left at a path -/

/-- Fresh bytes are at the path, or no file where making them failed. -/
structure Left (p : Path) (fresh : List UInt8 → Prop) (failed : Prop) (t : Tree) : Prop where
  fresh : ¬failed → ∃ bytes, fresh bytes ∧ t.readBytes p = .ok bytes
  gone : failed → t.isFile p = false

/-- What a step on one path comes to. -/
structure Settled (wanted : Bool) (p : Path) (fresh : List UInt8 → Prop) (failed : Prop)
    (t t' : Tree) : Prop where
  changes : Changes (fun l => wanted = true ∧ t.locate p = .ok l) t t'
  left : wanted = true → Left p fresh failed t'

lemma settled_unwanted {failed : Prop} : Settled false p fresh failed t t :=
  ⟨changes_of_untouched (untouched_refl _), fun hfalse => by simp at hfalse⟩

lemma settled_of_replaced (h : Replaced p fresh t t') {failed : Prop} (hok : ¬failed) :
    Settled true p fresh failed t t' := by
  obtain ⟨l, bytes, hfresh, hl, hchanges, hnode⟩ := h
  refine ⟨changes_mono hchanges ?_, fun _ => ⟨fun _ => ⟨bytes, hfresh, ?_⟩, fun h => absurd h hok⟩⟩
  · rintro _ rfl
    exact ⟨rfl, hl⟩
  · exact readBytes_eq_ok.mpr ⟨l, (locate_of_changes hchanges).mpr hl, hnode⟩

lemma settled_of_cleared (h : Cleared p t t') {failed : Prop} (hfailed : failed) :
    Settled true p fresh failed t t' := by
  exact ⟨changes_mono h.1 fun l hl => ⟨rfl, hl⟩,
    fun _ => ⟨absurd hfailed, fun _ => isFile_of_cleared h⟩⟩

lemma left_of_changes {failed : Prop} {places : Location → Prop} (h : Left p fresh failed t)
    (hchanges : Changes places t t') (hplaces : ∀ l, t.locate p = .ok l → ¬places l) :
    Left p fresh failed t' := by
  constructor
  · intro hok
    obtain ⟨bytes, hfresh, hbytes⟩ := h.fresh hok
    exact ⟨bytes, hfresh, (readBytes_of_changes hchanges hplaces).mpr hbytes⟩
  · intro hfailed
    have hgone := h.gone hfailed
    rw [Bool.eq_false_iff] at hgone ⊢
    exact mt (isFile_of_changes hchanges hplaces).mp hgone

lemma left_of_untouched {failed : Prop} (h : Left p fresh failed t) (hsame : Untouched t t') :
    Left p fresh failed t' := by
  have hchanges : Changes (fun _ => False) t t' := changes_of_untouched hsame
  exact left_of_changes h hchanges fun _ _ => not_false

lemma changes_both {wanted wanted' : Bool} {p' : Path} {fresh' : List UInt8 → Prop}
    {failed failed' : Prop} {t₀ t'' : Tree} (hsame : Untouched t₀ t)
    (h : Settled wanted p fresh failed t t') (h' : Settled wanted' p' fresh' failed' t' t'') :
    Changes (fun l => (wanted = true ∧ t₀.locate p = .ok l) ∨
      (wanted' = true ∧ t₀.locate p' = .ok l)) t₀ t'' := by
  refine changes_congr hsame (changes_mono (changes_trans h.changes h'.changes) ?_) (untouched_refl _)
  rintro l (⟨hwanted, hl⟩ | ⟨hwanted', hl⟩)
  · exact Or.inl ⟨hwanted, (locate_of_untouched hsame).mp hl⟩
  · exact Or.inr ⟨hwanted', (locate_of_untouched hsame).mp ((locate_of_changes h.changes).mp hl)⟩

/-- What the first of two steps leaves stays if their paths lead to different places. -/
lemma left_of_both {wanted wanted' : Bool} {p' : Path} {fresh' : List UInt8 → Prop}
    {failed failed' : Prop} {t₀ t'' : Tree} (hsame : Untouched t₀ t)
    (h : Settled wanted p fresh failed t t') (h' : Settled wanted' p' fresh' failed' t' t'')
    (hapart : wanted = true → wanted' = true → ∀ l, t₀.locate p = .ok l → t₀.locate p' ≠ .ok l)
    (hwanted : wanted = true) : Left p fresh failed t'' := by
  have hplace : ∀ {p : Path} {l : Location}, t'.locate p = .ok l ↔ t₀.locate p = .ok l :=
    (locate_of_changes h.changes).trans (locate_of_untouched hsame)
  apply left_of_changes (h.left hwanted) h'.changes
  rintro l hl ⟨hwanted', hl'⟩
  exact hapart hwanted hwanted' l (hplace.mp hl) (hplace.mp hl')

/-! ### Making a file or discarding it -/

/-- How a step ends if it is asked for; otherwise it ends at once. -/
def attempted (wanted : Bool) (work : Task (StateM σ) Unit) (s : σ) : Except TableError Unit × σ :=
  if wanted then outcome work s else (.ok (), s)

lemma outcome_attempt (wanted : Bool) (work : Task (StateM σ) Unit) (s : σ) :
    outcome (attempt wanted work) s =
      (.ok (attempted wanted work s).1, (attempted wanted work s).2) := by
  cases wanted <;> rfl

lemma error_of_attempted {P : TableError → Prop} {wanted : Bool} {work : Task (StateM σ) Unit}
    {s : σ} {e : TableError} (h : wanted = true → FailsAs P work s)
    (herror : (attempted wanted work s).1 = .error e) : P e := by
  cases wanted with
  | false => cases herror
  | true => exact h rfl e herror

variable [FileSystem (StateM σ)]

def discardIf (wanted : Bool) (p : Path) : StateM σ Unit :=
  if wanted then FileSystem.discard p else pure ()

lemma failsAs_orDiscard {P : TableError → Prop} {work : Task (StateM σ) α} {s : σ}
    (h : FailsAs P work s) : FailsAs P (orDiscard p work) s :=
  failsAs_tryCatch h fun _ _ he => failsAs_bind (failsAs_lift _) fun _ _ => failsAs_throw he

/-- An artifact whose bytes can be made fails by a fault of the file system. -/
lemma failsAs_writeArtifact {encoded : Except TableError (List UInt8)} {bytes : List UInt8}
    (h : encoded = .ok bytes) (p : Path) (s : σ) :
    FailsAs IsFileError (writeArtifact encoded p : Task (StateM σ) Nat) s := by
  unfold writeArtifact
  refine failsAs_orDiscard (failsAs_bind (failsAs_ofExcept fun e he => ?_) fun bytes _ => ?_)
  · rw [h] at he
    cases he
  · exact failsAs_bind (failsAs_replaceFile p bytes) fun _ _ => failsAs_pure _

variable [TreeSystem σ] {s : σ}

/-- Work that leaves the tree as it is when it fails leaves no file at the path once it is
discarded there. -/
lemma ends_orDiscard {success : α → Tree → Prop} {work : Task (StateM σ) α}
    (h : Ends tree success (Untouched t) (outcome work s)) :
    Ends tree success (Cleared p t) (outcome (orDiscard p work) s) := by
  unfold orDiscard
  apply ends_tryCatch (Untouched t) h
  intro s' hsame
  exact cleared_congr hsame (cleared_discard p s') (untouched_refl _)

lemma ends_write (made : Except TableError (List UInt8)) {write : List UInt8 → Task (StateM σ) α}
    (h : ∀ bytes, Ends tree (fun _ => Replaced p (· = bytes) (tree s)) (Untouched (tree s))
      (outcome (write bytes) s)) :
    Ends tree (fun _ => Replaced p (made = .ok ·) (tree s)) (Untouched (tree s))
      (outcome (ofExcept made >>= write) s) := by
  cases made with
  | error e =>
    rw [outcome_bind_error (outcome_ofExcept _ _)]
    exact untouched_refl _
  | ok bytes =>
    rw [outcome_bind_ok (outcome_ofExcept _ _)]
    simp only [Except.ok.injEq, eq_comm (a := bytes)]
    exact h bytes

/-- The bytes of a table are at the path of its artifact, or no file is. -/
lemma ends_writeArtifact (encoded : Except TableError (List UInt8)) (p : Path) (s : σ) :
    Ends tree (fun _ => Replaced p (encoded = .ok ·) (tree s)) (Cleared p (tree s))
      (outcome (writeArtifact encoded p) s) := by
  unfold writeArtifact
  refine ends_orDiscard (ends_write encoded fun bytes => ?_)
  exact ends_bind (ends_replaceFile p bytes s) fun _ _ h => h

lemma settled_attempted (wanted : Bool) {work : Task (StateM σ) Unit}
    (h : Ends tree (fun _ => Replaced p fresh (tree s)) (Cleared p (tree s)) (outcome work s)) :
    Settled wanted p fresh ((attempted wanted work s).1 ≠ .ok ()) (tree s)
      (tree (attempted wanted work s).2) := by
  cases wanted with
  | false => exact settled_unwanted
  | true =>
    unfold attempted
    rw [if_pos rfl]
    rcases hending : outcome work s with ⟨result, s'⟩
    rw [hending] at h
    cases result with
    | ok u => exact settled_of_replaced h (not_not.mpr rfl)
    | error e => exact settled_of_cleared h (by simp)

lemma settled_discardIf (wanted : Bool) (p : Path) (fresh : List UInt8 → Prop) (s : σ) :
    Settled wanted p fresh True (tree s) (tree (StateT.run (discardIf wanted p) s).2) := by
  cases wanted with
  | false => exact settled_unwanted
  | true => exact settled_of_cleared (cleared_discard p s) trivial

/-! ### A step that succeeds -/

variable {s' : σ}

lemma replaced_of_attempted {wanted : Bool} {work : Task (StateM σ) Unit}
    (h : Ends tree (fun _ => Replaced p fresh (tree s)) (Cleared p (tree s)) (outcome work s))
    (hok : (attempted wanted work s).1 = .ok ()) (hwanted : wanted = true) :
    Replaced p fresh (tree s) (tree (attempted wanted work s).2) := by
  subst hwanted
  change (outcome work s).1 = .ok () at hok
  unfold Ends at h
  rw [hok] at h
  exact h

lemma isFile_of_attempted {wanted : Bool} {q : Path} {work : Task (StateM σ) Unit}
    (h : Ends tree (fun _ => Replaced p fresh (tree s)) (Cleared p (tree s)) (outcome work s))
    (hok : (attempted wanted work s).1 = .ok ()) (hfile : (tree s).isFile q = true) :
    (tree (attempted wanted work s).2).isFile q = true := by
  cases wanted with
  | false => exact hfile
  | true => exact isFile_of_replaced_other (replaced_of_attempted h hok rfl) hfile

/-- States that differ at some places still differ at no others once a step has made the same file in
both. -/
lemma changes_attempted {wanted : Bool} {work work' : Task (StateM σ) Unit}
    {made made' : Except TableError (List UInt8)} {places : Location → Prop}
    (hchanges : Changes places (tree s) (tree s'))
    (h : Ends tree (fun _ => Replaced p (made = .ok ·) (tree s)) (Cleared p (tree s))
      (outcome work s))
    (h' : Ends tree (fun _ => Replaced p (made' = .ok ·) (tree s')) (Cleared p (tree s'))
      (outcome work' s'))
    (hok : (attempted wanted work s).1 = .ok ()) (hok' : (attempted wanted work' s').1 = .ok ())
    (hmade : wanted = true → ∀ bytes, made = .ok bytes → made' = .ok bytes) :
    Changes places (tree (attempted wanted work s).2) (tree (attempted wanted work' s').2) := by
  cases wanted with
  | false => exact hchanges
  | true =>
    apply changes_of_replaced hchanges (replaced_of_attempted h hok rfl)
      (replaced_of_attempted h' hok' rfl)
    intro bytes bytes' hbytes hbytes'
    exact Except.ok.inj ((hmade rfl bytes hbytes).symm.trans hbytes')

end TypedTables.Proofs
