import TypedTables.File.Tree
import TypedTables.Proofs.Result

/-!
# Changes of a tree

What each operation on a tree of files changes. Operations never make or remove a directory other
than the one they are asked for, and they stay in the working directory, so a path that leads to a
place leads there afterwards, too.
-/

namespace TypedTables.Proofs

variable {t t' : Tree} {p : Path} {l : Location} {bytes : List UInt8}

/-- The second tree has the directories of the first, is seen from the same one, and differs from it
at the given places at most. -/
structure Changes (places : Location → Prop) (t t' : Tree) : Prop where
  working : t'.working = t.working
  directory : ∀ l, t'.node? l = some .directory ↔ t.node? l = some .directory
  frame : ∀ l, ¬places l → t'.node? l = t.node? l

lemma changes_trans {first second : Location → Prop} {t'' : Tree} (h : Changes first t t')
    (h' : Changes second t' t'') : Changes (fun l => first l ∨ second l) t t'' := by
  refine ⟨h'.working.trans h.working, fun l => (h'.directory l).trans (h.directory l), ?_⟩
  intro l hl
  rw [not_or] at hl
  rw [h'.frame l hl.2, h.frame l hl.1]

lemma changes_mono {places places' : Location → Prop} (h : Changes places t t')
    (hplaces : ∀ l, places l → places' l) : Changes places' t t' :=
  ⟨h.working, h.directory, fun l hl => h.frame l fun hin => hl (hplaces l hin)⟩

lemma changes_symm {places : Location → Prop} (h : Changes places t t') : Changes places t' t :=
  ⟨h.working.symm, fun l => (h.directory l).symm, fun l hl => (h.frame l hl).symm⟩

/-! ### Places -/

lemma isFixed_eq_false (h : t.node? l ≠ some .directory) : t.isFixed l = false := by
  rw [Bool.eq_false_iff]
  intro hfixed
  exact h (if_pos hfixed)

lemma lookup_filter_self (entries : List (Location × Node)) (l : Location) :
    (entries.filter (·.1 != l)).lookup l = none := by
  induction entries with
  | nil => rfl
  | cons entry rest ih =>
    by_cases hsame : entry.1 = l
    · rw [List.filter_cons_of_neg (by simp [hsame])]
      exact ih
    · rw [List.filter_cons_of_pos (by simp [hsame]), List.lookup_cons,
        beq_false_of_ne (Ne.symm hsame)]
      exact ih

lemma lookup_filter_ne (entries : List (Location × Node)) {l l' : Location} (h : l' ≠ l) :
    (entries.filter (·.1 != l)).lookup l' = entries.lookup l' := by
  induction entries with
  | nil => rfl
  | cons entry rest ih =>
    rw [List.lookup_cons]
    by_cases hsame : entry.1 = l
    · rw [List.filter_cons_of_neg (by simp [hsame]), hsame, beq_false_of_ne h]
      exact ih
    · rw [List.filter_cons_of_pos (by simp [hsame]), List.lookup_cons, ih]

@[simp] lemma isFixed_put (l l' : Location) (n : Node) : (t.put l n).isFixed l' = t.isFixed l' := rfl

@[simp] lemma isFixed_drop (l l' : Location) : (t.drop l).isFixed l' = t.isFixed l' := rfl

lemma node?_put_self (h : t.isFixed l = false) (n : Node) : (t.put l n).node? l = some n := by
  rw [Tree.node?, isFixed_put, h]
  simp [Tree.put]

lemma node?_put_ne {l' : Location} (h : l' ≠ l) (n : Node) :
    (t.put l n).node? l' = t.node? l' := by
  rw [Tree.node?, Tree.node?, isFixed_put, Tree.put]
  simp only [List.lookup_cons, beq_false_of_ne h, lookup_filter_ne _ h]

lemma node?_drop_self (h : t.isFixed l = false) : (t.drop l).node? l = none := by
  rw [Tree.node?, isFixed_drop, h]
  exact lookup_filter_self _ _

lemma node?_drop_ne {l' : Location} (h : l' ≠ l) : (t.drop l).node? l' = t.node? l' := by
  rw [Tree.node?, Tree.node?, isFixed_drop, Tree.drop]
  simp only [lookup_filter_ne _ h]

lemma changes_put (h : t.node? l ≠ some .directory) (bytes : List UInt8) :
    Changes (· = l) t (t.put l (.file bytes)) := by
  refine ⟨rfl, ?_, fun l' hne => node?_put_ne hne _⟩
  intro l'
  by_cases hsame : l' = l
  · subst hsame
    simp [node?_put_self (isFixed_eq_false h), h]
  · rw [node?_put_ne hsame]

lemma changes_drop (h : t.node? l ≠ some .directory) : Changes (· = l) t (t.drop l) := by
  refine ⟨rfl, ?_, fun l' hne => node?_drop_ne hne⟩
  intro l'
  by_cases hsame : l' = l
  · subst hsame
    simp [node?_drop_self (isFixed_eq_false h), h]
  · rw [node?_drop_ne hsame]

/-! ### Paths -/

lemma enter_eq_ok {u : Unit} : t.enter l = .ok u ↔ t.node? l = some .directory := by
  unfold Tree.enter
  cases hnode : t.node? l with
  | none => simp
  | some n => cases n <;> simp

lemma foldlM_mono {ε α β : Type} {f g : β → α → Except ε β}
    (h : ∀ a x b, f a x = .ok b → g a x = .ok b) {xs : List α} {a b : β}
    (hf : xs.foldlM f a = .ok b) : xs.foldlM g a = .ok b := by
  induction xs generalizing a with
  | nil => exact hf
  | cons x xs ih =>
    rw [List.foldlM_cons] at hf ⊢
    obtain ⟨next, hnext, hf⟩ := bind_eq_ok.mp hf
    exact bind_eq_ok.mpr ⟨next, h a x next hnext, ih hf⟩

/-- A path leads where it led as long as the directories stay and the working directory is the
same. -/
theorem locate_mono (hworking : t'.working = t.working)
    (h : ∀ l, t.node? l = some .directory → t'.node? l = some .directory)
    (hl : t.locate p = .ok l) : t'.locate p = .ok l := by
  have hstep : ∀ l piece next, t.step l piece = .ok next → t'.step l piece = .ok next := by
    intro l piece next hstep
    obtain ⟨u, henter, hnext⟩ := bind_eq_ok.mp hstep
    exact bind_eq_ok.mpr ⟨u, enter_eq_ok.mpr (h l (enter_eq_ok.mp henter)), hnext⟩
  obtain ⟨origin, horigin, hfold⟩ := bind_eq_ok.mp hl
  have horigin' : t'.start p = .ok origin := by
    rw [← horigin, Tree.start, Tree.start, hworking]
  exact bind_eq_ok.mpr ⟨origin, horigin', foldlM_mono hstep hfold⟩

/-- Where a path leads depends on the directories alone, and on which of them is the working
directory. -/
theorem locate_congr (hworking : t'.working = t.working)
    (h : ∀ l, t'.node? l = some .directory ↔ t.node? l = some .directory) :
    t'.locate p = .ok l ↔ t.locate p = .ok l :=
  ⟨locate_mono hworking.symm fun l => (h l).mp, locate_mono hworking fun l => (h l).mpr⟩

lemma locate_of_changes {places : Location → Prop} (h : Changes places t t') :
    t'.locate p = .ok l ↔ t.locate p = .ok l :=
  locate_congr h.working h.directory

lemma find_eq_ok {n : Node} :
    t.find p = .ok n ↔ ∃ l, t.locate p = .ok l ∧ t.node? l = some n := by
  unfold Tree.find
  rw [bind_eq_ok]
  refine exists_congr fun l => and_congr_right fun _ => ?_
  cases t.node? l with
  | none => simp
  | some found => simp

lemma isFile_eq_true :
    t.isFile p = true ↔ ∃ l bytes, t.locate p = .ok l ∧ t.node? l = some (.file bytes) := by
  have hfind : t.isFile p = true ↔ ∃ bytes, t.find p = .ok (.file bytes) := by
    unfold Tree.isFile
    cases t.find p with
    | error fault => simp
    | ok n => cases n <;> simp
  rw [hfind]
  simp only [find_eq_ok]
  exact exists_comm

lemma readBytes_eq_ok : t.readBytes p = .ok bytes ↔
    ∃ l, t.locate p = .ok l ∧ t.node? l = some (.file bytes) := by
  unfold Tree.readBytes
  rw [bind_eq_ok, ← find_eq_ok]
  constructor
  · rintro ⟨n, hn, h⟩
    cases n with
    | directory => simp at h
    | file found => rw [hn, pure_eq_ok.mp h]
  · intro h
    exact ⟨.file bytes, h, rfl⟩

lemma readBytes_of_changes {places : Location → Prop} (h : Changes places t t')
    (hplaces : ∀ l, t.locate p = .ok l → ¬places l) :
    t'.readBytes p = .ok bytes ↔ t.readBytes p = .ok bytes := by
  rw [readBytes_eq_ok, readBytes_eq_ok]
  apply exists_congr
  intro l
  rw [locate_of_changes h]
  exact and_congr_right fun hl => by rw [h.frame l (hplaces l hl)]

lemma isFile_iff_readBytes : t.isFile p = true ↔ ∃ bytes, t.readBytes p = .ok bytes := by
  simp only [isFile_eq_true, readBytes_eq_ok]
  exact exists_comm

lemma isFile_of_changes {places : Location → Prop} (h : Changes places t t')
    (hplaces : ∀ l, t.locate p = .ok l → ¬places l) : t'.isFile p = true ↔ t.isFile p = true := by
  rw [isFile_iff_readBytes, isFile_iff_readBytes]
  exact exists_congr fun bytes => readBytes_of_changes h hplaces

/-- A path whose last piece is a name leads to that name in the place of the other pieces. -/
lemma locate_of_lastStep {name : String} (h : t.lastStep p = .ok (l, name))
    (hname : ¬(Path.isIdle name ∨ name = "..")) (hlast : p.pieces.getLast? ≠ some "") :
    t.locate p = .ok (l.child name) := by
  unfold Tree.lastStep at h
  have hpieces : p.pieces.take 1 ++ Text.dropEndWhile String.isEmpty (p.pieces.drop 1) =
      p.pieces := by
    have hdrop : Text.dropEndWhile String.isEmpty (p.pieces.drop 1) = p.pieces.drop 1 := by
      rcases List.eq_nil_or_concat' (p.pieces.drop 1) with hnil | ⟨pieces, piece, hconcat⟩
      · rw [hnil]
        rfl
      · have hpiece : piece ≠ "" := by
          rw [← List.take_append_drop 1 p.pieces, hconcat, ← List.append_assoc] at hlast
          simpa using hlast
        rw [hconcat]
        simp [Text.dropEndWhile, hpiece]
    rw [hdrop, List.take_append_drop]
  rw [hpieces] at h
  obtain ⟨origin, horigin, h⟩ := bind_eq_ok.mp h
  obtain ⟨l', hl', h⟩ := bind_eq_ok.mp h
  obtain ⟨u, henter, h⟩ := bind_eq_ok.mp h
  obtain ⟨u', hcheck, h⟩ := bind_eq_ok.mp h
  obtain ⟨rfl, hlastD⟩ := Prod.mk.inj (pure_eq_ok.mp h)
  rw [hlastD] at hcheck
  have hne : p.pieces ≠ [] := by
    intro hnil
    simp only [hnil, List.getLastD_nil] at hlastD
    exact hname (.inl (by rw [← hlastD]; rfl))
  have hsplit : p.pieces = p.pieces.dropLast ++ [name] := by
    rw [← hlastD, List.getLastD_eq_getLast?, List.getLast?_eq_some_getLast hne, Option.getD_some,
      List.dropLast_append_getLast]
  unfold Tree.locate
  refine bind_eq_ok.mpr ⟨origin, horigin, ?_⟩
  rw [not_or] at hname
  have hstep : t.step l' name = .ok (l'.child name) := by
    unfold Tree.step
    refine bind_eq_ok.mpr ⟨u, henter, ?_⟩
    rw [if_neg hname.1, if_neg hname.2]
    exact bind_eq_ok.mpr ⟨u', hcheck, rfl⟩
  rw [hsplit, List.foldlM_append]
  refine bind_eq_ok.mpr ⟨l', hl', ?_⟩
  rw [List.foldlM_cons]
  exact bind_eq_ok.mpr ⟨_, hstep, rfl⟩

/-! ### What has become of a path -/

/-- Everything is as it was. -/
structure Untouched (t t' : Tree) : Prop where
  working : t'.working = t.working
  node? : ∀ l, t'.node? l = t.node? l

/-- A file is at the path, with bytes as they should be, and nothing else has changed. -/
def Replaced (p : Path) (content : List UInt8 → Prop) (t t' : Tree) : Prop :=
  ∃ l bytes, content bytes ∧ t.locate p = .ok l ∧ Changes (· = l) t t' ∧
    t'.node? l = some (.file bytes)

/-- A file is at a path that led to nothing, and nothing else has changed. -/
def Pending (p : Path) (content : List UInt8 → Prop) (t t' : Tree) : Prop :=
  Replaced p content t t' ∧ ∀ n, t.find p ≠ .ok n

/-- A file has left its path for another one, and nothing else has changed. -/
def Moved (source target : Path) (t t' : Tree) : Prop :=
  ∃ l place bytes, t.locate source = .ok l ∧ t.node? l = some (.file bytes) ∧
    t.locate target = .ok place ∧ Changes (fun l' => l' = l ∨ l' = place) t t' ∧
    t'.node? place = some (.file bytes) ∧ (l ≠ place → t'.node? l = none)

/-- No file is at the path, and nothing else has changed. -/
def Cleared (p : Path) (t t' : Tree) : Prop :=
  Changes (t.locate p = .ok ·) t t' ∧
    ∀ l bytes, t.locate p = .ok l → t'.node? l ≠ some (.file bytes)

lemma untouched_refl (t : Tree) : Untouched t t := ⟨rfl, fun _ => rfl⟩

lemma untouched_symm (h : Untouched t t') : Untouched t' t :=
  ⟨h.working.symm, fun l => (h.node? l).symm⟩

lemma untouched_trans {t'' : Tree} (h : Untouched t t') (h' : Untouched t' t'') : Untouched t t'' :=
  ⟨h'.working.trans h.working, fun l => (h'.node? l).trans (h.node? l)⟩

lemma changes_of_untouched {places : Location → Prop} (h : Untouched t t') : Changes places t t' :=
  ⟨h.working, fun l => by rw [h.node? l], fun l _ => h.node? l⟩

lemma locate_of_untouched (h : Untouched t t') : t'.locate p = .ok l ↔ t.locate p = .ok l :=
  locate_congr h.working fun l => by rw [h.node? l]

lemma node?_of_free (h : ∀ n, t.find p ≠ .ok n) (hl : t.locate p = .ok l) : t.node? l = none := by
  cases hnode : t.node? l with
  | none => rfl
  | some n => exact absurd (find_eq_ok.mpr ⟨l, hl, hnode⟩) (h n)

lemma isFile_of_replaced {content : List UInt8 → Prop} (h : Replaced p content t t') :
    t'.isFile p = true := by
  obtain ⟨l, bytes, -, hl, hchanges, hnode⟩ := h
  exact isFile_eq_true.mpr ⟨l, bytes, (locate_of_changes hchanges).mpr hl, hnode⟩

lemma changes_congr {places : Location → Prop} {t₀ t₁ : Tree} (h : Untouched t₀ t)
    (hchanges : Changes places t t') (h' : Untouched t' t₁) : Changes places t₀ t₁ := by
  refine ⟨?_, fun l => ?_, fun l hl => ?_⟩
  · rw [h'.working, hchanges.working, h.working]
  · rw [h'.node? l, hchanges.directory l, h.node? l]
  · rw [h'.node? l, hchanges.frame l hl, h.node? l]

lemma replaced_congr {content : List UInt8 → Prop} {t₀ t₁ : Tree} (h : Untouched t₀ t)
    (hreplaced : Replaced p content t t') (h' : Untouched t' t₁) : Replaced p content t₀ t₁ := by
  obtain ⟨l, bytes, hbytes, hl, hchanges, hnode⟩ := hreplaced
  exact ⟨l, bytes, hbytes, (locate_of_untouched h).mp hl, changes_congr h hchanges h',
    by rw [h'.node? l, hnode]⟩

lemma replaced_mono {content content' : List UInt8 → Prop} (h : Replaced p content t t')
    (hcontent : ∀ bytes, content bytes → content' bytes) : Replaced p content' t t' := by
  obtain ⟨l, bytes, hbytes, h⟩ := h
  exact ⟨l, bytes, hcontent bytes hbytes, h⟩

/-- Trees that differ at some places still differ at no others once the same bytes are put at a path
of each. -/
lemma changes_of_replaced {places : Location → Prop} {content content' : List UInt8 → Prop}
    {t₁ t₁' : Tree} (h : Changes places t t') (hput : Replaced p content t t₁)
    (hput' : Replaced p content' t' t₁')
    (hsame : ∀ bytes bytes', content bytes → content' bytes' → bytes = bytes') :
    Changes places t₁ t₁' := by
  obtain ⟨l, bytes, hbytes, hl, hchanges, hnode⟩ := hput
  obtain ⟨l', bytes', hbytes', hl', hchanges', hnode'⟩ := hput'
  obtain rfl : l = l' := Except.ok.inj (hl.symm.trans ((locate_of_changes h).mp hl'))
  refine ⟨?_, fun l => ?_, fun place hplace => ?_⟩
  · rw [hchanges'.working, h.working, hchanges.working]
  · rw [hchanges'.directory, h.directory, hchanges.directory]
  · by_cases hsame' : place = l
    · rw [hsame', hnode, hnode', hsame bytes bytes' hbytes hbytes']
    · rw [hchanges'.frame place hsame', h.frame place hplace, hchanges.frame place hsame']

/-- A file stays a file when one is put at some path. -/
lemma isFile_of_replaced_other {content : List UInt8 → Prop} {q : Path}
    (h : Replaced p content t t') (hfile : t.isFile q = true) : t'.isFile q = true := by
  obtain ⟨l, bytes, -, hl, hchanges, hnode⟩ := h
  obtain ⟨place, old, hplace, hold⟩ := isFile_eq_true.mp hfile
  have hplace' := (locate_of_changes hchanges).mpr hplace
  by_cases hsame : place = l
  · exact isFile_eq_true.mpr ⟨l, bytes, hsame ▸ hplace', hnode⟩
  · exact isFile_eq_true.mpr ⟨place, old, hplace', by rw [hchanges.frame place hsame, hold]⟩

lemma pending_written {content content' : List UInt8 → Prop} {t'' : Tree}
    (h : Pending p content t t') (hwritten : Replaced p content' t' t'') :
    Pending p content' t t'' := by
  obtain ⟨⟨l, bytes, -, hl, hchanges, hnode⟩, hfree⟩ := h
  obtain ⟨l', bytes', hbytes', hl', hchanges', hnode'⟩ := hwritten
  obtain rfl : l = l' := Except.ok.inj (hl.symm.trans ((locate_of_changes hchanges).mp hl'))
  exact ⟨⟨l, bytes', hbytes', hl, changes_mono (changes_trans hchanges hchanges') (by simp), hnode'⟩,
    hfree⟩

/-- A file that is pending can be moved to its path. -/
lemma replaced_of_moved {content : List UInt8 → Prop} {temporary : Path} {t'' : Tree}
    (h : Pending temporary content t t') (hmoved : Moved temporary p t' t'') :
    Replaced p content t t'' := by
  obtain ⟨⟨l, bytes, hbytes, hl, hchanges, hnode⟩, hfree⟩ := h
  obtain ⟨l', place, found, hl', hfound, hplace, hchanges', hnode', hleft⟩ := hmoved
  obtain rfl : l = l' := Except.ok.inj (hl.symm.trans ((locate_of_changes hchanges).mp hl'))
  obtain rfl : bytes = found := by
    rw [hnode] at hfound
    simpa using hfound
  refine ⟨place, bytes, hbytes, (locate_of_changes hchanges).mp hplace, ⟨?_, ?_, ?_⟩, hnode'⟩
  · exact hchanges'.working.trans hchanges.working
  · exact fun l' => (hchanges'.directory l').trans (hchanges.directory l')
  · intro l' hne
    by_cases hsame : l' = l
    · subst hsame
      rw [hleft hne, node?_of_free hfree hl]
    · rw [hchanges'.frame l' (not_or.mpr ⟨hsame, hne⟩), hchanges.frame l' hsame]

/-- Once a file that is pending is gone, everything is as before. -/
lemma untouched_of_cleared {content : List UInt8 → Prop} {t'' : Tree}
    (h : Pending p content t t') (hcleared : Cleared p t' t'') : Untouched t t'' := by
  obtain ⟨⟨l, bytes, -, hl, hchanges, -⟩, hfree⟩ := h
  obtain ⟨hchanges', hgone⟩ := hcleared
  have hl' := (locate_of_changes hchanges).mpr hl
  refine ⟨hchanges'.working.trans hchanges.working, fun l' => ?_⟩
  by_cases hsame : l' = l
  · subst hsame
    rw [node?_of_free hfree hl]
    cases hnode : t''.node? l' with
    | none => rfl
    | some n =>
      cases n with
      | file bytes => exact absurd hnode (hgone l' bytes hl')
      | directory =>
        have hdirectory := (hchanges.directory l').mp ((hchanges'.directory l').mp hnode)
        rw [node?_of_free hfree hl] at hdirectory
        simp at hdirectory
  · rw [hchanges'.frame l' fun hplace => hsame (Except.ok.inj (hplace.symm.trans hl')),
      hchanges.frame l' hsame]

lemma cleared_congr {t₀ t₁ : Tree} (h : Untouched t₀ t) (hcleared : Cleared p t t')
    (h' : Untouched t' t₁) : Cleared p t₀ t₁ := by
  obtain ⟨hchanges, hgone⟩ := hcleared
  refine ⟨changes_mono (changes_congr h hchanges h') fun l => (locate_of_untouched h).mp, ?_⟩
  intro l bytes hl
  rw [h'.node? l]
  exact hgone l bytes ((locate_of_untouched h).mpr hl)

lemma isFile_of_cleared (h : Cleared p t t') : t'.isFile p = false := by
  obtain ⟨hchanges, hgone⟩ := h
  rw [Bool.eq_false_iff]
  intro hfound
  obtain ⟨l, bytes, hl, hnode⟩ := isFile_eq_true.mp hfound
  exact hgone l bytes ((locate_of_changes hchanges).mp hl) hnode

/-! ### Directories that have been made -/

/-- Directories have been made where nothing was, and nothing else has changed. -/
structure Grown (t t' : Tree) : Prop where
  working : t'.working = t.working
  node? : ∀ l, t'.node? l = t.node? l ∨ t.node? l = none ∧ t'.node? l = some .directory

lemma grown_of_untouched (h : Untouched t t') : Grown t t' :=
  ⟨h.working, fun l => .inl (h.node? l)⟩

lemma grown_refl (t : Tree) : Grown t t := grown_of_untouched (untouched_refl t)

lemma grown_trans {t'' : Tree} (h : Grown t t') (h' : Grown t' t'') : Grown t t'' := by
  refine ⟨h'.working.trans h.working, fun l => ?_⟩
  rcases h'.node? l with hsame' | ⟨hnone, hmade⟩
  · rw [hsame']
    exact h.node? l
  · rcases h.node? l with hsame | ⟨-, hdirectory⟩
    · exact .inr ⟨hsame ▸ hnone, hmade⟩
    · rw [hnone] at hdirectory
      cases hdirectory

lemma locate_of_grown (h : Grown t t') (hl : t.locate p = .ok l) : t'.locate p = .ok l := by
  apply locate_mono h.working _ hl
  intro l' hdirectory
  rcases h.node? l' with hsame | ⟨-, hmade⟩
  · rw [hsame, hdirectory]
  · exact hmade

/-- The files are as they were. -/
lemma file_of_grown (h : Grown t t') :
    t'.node? l = some (.file bytes) ↔ t.node? l = some (.file bytes) := by
  rcases h.node? l with hsame | ⟨hnone, hmade⟩
  · rw [hsame]
  · simp [hnone, hmade]

/-- A path with a file still leads to it, and if a file is where the path leads now, then it was there
before. -/
structure Kept (p : Path) (t t' : Tree) : Prop where
  readBytes : ∀ bytes, t.readBytes p = .ok bytes → t'.readBytes p = .ok bytes
  file : ∀ l bytes, t'.locate p = .ok l → t'.node? l = some (.file bytes) →
    t.node? l = some (.file bytes)

lemma kept_of_grown (h : Grown t t') (p : Path) : Kept p t t' := by
  refine ⟨fun bytes hbytes => ?_, fun l bytes _ => (file_of_grown h).mp⟩
  obtain ⟨l, hl, hnode⟩ := readBytes_eq_ok.mp hbytes
  exact readBytes_eq_ok.mpr ⟨l, locate_of_grown h hl, (file_of_grown h).mpr hnode⟩

/-- A file that is kept stays where only other places change. -/
lemma kept_of_changes {places : Location → Prop} {t'' : Tree} (h : Kept p t t')
    (hchanges : Changes places t' t'') (hplaces : ∀ l, t'.locate p = .ok l → ¬places l) :
    Kept p t t'' := by
  constructor
  · exact fun bytes hbytes => (readBytes_of_changes hchanges hplaces).mpr (h.readBytes bytes hbytes)
  · intro l bytes hl hnode
    have hl' := (locate_of_changes hchanges).mp hl
    exact h.file l bytes hl' (by rw [← hchanges.frame l (hplaces l hl'), hnode])

/-! ### What operations come to -/

lemma replaced_put {content : List UInt8 → Prop} (hl : t.locate p = .ok l)
    (hnode : t.node? l ≠ some .directory) (hbytes : content bytes) :
    Replaced p content t (t.put l (.file bytes)) :=
  ⟨l, bytes, hbytes, hl, changes_put hnode bytes, node?_put_self (isFixed_eq_false hnode) _⟩

lemma pending_of_createTemporary {directory : Path}
    (h : t.createTemporary directory = .ok (p, t')) : Pending p (fun _ => True) t t' := by
  unfold Tree.createTemporary at h
  split at h
  · next chosen hchosen =>
    obtain ⟨l, hl, h⟩ := bind_eq_ok.mp h
    obtain ⟨rfl, rfl⟩ := Prod.mk.inj (pure_eq_ok.mp h)
    have hfree : ∀ n, t.find chosen ≠ .ok n := by
      intro n hn
      have hnothing := List.find?_some hchosen
      rw [hn] at hnothing
      simp [Except.toOption] at hnothing
    refine ⟨replaced_put hl ?_ trivial, hfree⟩
    rw [node?_of_free hfree hl]
    exact Option.some_ne_none _ ∘ Eq.symm
  · simp at h

lemma replaced_of_writeBytes (h : t.writeBytes p bytes = .ok t') :
    Replaced p (· = bytes) t t' := by
  unfold Tree.writeBytes at h
  obtain ⟨l, hl, h⟩ := bind_eq_ok.mp h
  cases hnode : t.node? l with
  | none => simp [hnode] at h
  | some n =>
    cases n with
    | directory => simp [hnode] at h
    | file old =>
      simp only [hnode] at h
      obtain rfl := pure_eq_ok.mp h
      exact replaced_put hl (by simp [hnode]) rfl

lemma writeBytes_of_isFile (h : t.isFile p = true) (bytes : List UInt8) :
    ∃ t', t.writeBytes p bytes = .ok t' := by
  obtain ⟨l, old, hl, hnode⟩ := isFile_eq_true.mp h
  unfold Tree.writeBytes
  refine ⟨t.put l (.file bytes), bind_eq_ok.mpr ⟨l, hl, ?_⟩⟩
  simp only [hnode]
  rfl

lemma moved_of_rename {source target : Path} (h : t.rename source target = .ok t') :
    Moved source target t t' := by
  unfold Tree.rename at h
  obtain ⟨l, hl, h⟩ := bind_eq_ok.mp h
  obtain ⟨bytes, hbytes, h⟩ := bind_eq_ok.mp h
  obtain ⟨⟨directory, name⟩, hlast, h⟩ := bind_eq_ok.mp h
  obtain ⟨hname, h⟩ := guard_eq_ok.mp h
  obtain ⟨hslash, h⟩ := guard_eq_ok.mp h
  obtain ⟨l', hl', hnode⟩ := readBytes_eq_ok.mp hbytes
  obtain rfl : l = l' := Except.ok.inj (hl.symm.trans hl')
  have hplace := locate_of_lastStep hlast hname hslash
  have hfree : t.node? (directory.child name) ≠ some .directory := by
    intro hdirectory
    simp [hdirectory] at h
  obtain rfl : (t.drop l).put (directory.child name) (.file bytes) = t' := by
    split at h
    · simp at h
    · exact pure_eq_ok.mp h
  have hdrop : Changes (· = l) t (t.drop l) := changes_drop (by simp [hnode])
  have hput : Changes (· = directory.child name) (t.drop l)
      ((t.drop l).put (directory.child name) (.file bytes)) :=
    changes_put (mt (hdrop.directory _).mp hfree) bytes
  refine ⟨l, _, bytes, hl, hnode, hplace, changes_trans hdrop hput,
    node?_put_self ((isFixed_drop _ _).trans (isFixed_eq_false hfree)) _, fun hne => ?_⟩
  rw [node?_put_ne hne, node?_drop_self (isFixed_eq_false (t := t) (by simp [hnode]))]

lemma grown_of_createDirectory (h : t.createDirectory p = .ok t') : Grown t t' := by
  unfold Tree.createDirectory at h
  obtain ⟨⟨directory, name⟩, -, h⟩ := bind_eq_ok.mp h
  obtain ⟨-, h⟩ := guard_eq_ok.mp h
  cases hnode : t.node? (directory.child name) with
  | some n => simp [hnode] at h
  | none =>
    simp only [hnode] at h
    obtain rfl := pure_eq_ok.mp h
    refine ⟨rfl, fun l => ?_⟩
    by_cases hsame : l = directory.child name
    · subst hsame
      exact .inr ⟨hnode, node?_put_self (isFixed_eq_false (by simp [hnode])) _⟩
    · exact .inl (node?_put_ne hsame _)

lemma cleared_of_remove (h : t.remove p = .ok t') : Cleared p t t' := by
  unfold Tree.remove at h
  obtain ⟨l, hl, h⟩ := bind_eq_ok.mp h
  cases hnode : t.node? l with
  | none => simp [hnode] at h
  | some n =>
    cases n with
    | directory => simp [hnode] at h
    | file old =>
      simp only [hnode] at h
      obtain rfl := pure_eq_ok.mp h
      have hdirectory : t.node? l ≠ some .directory := by simp [hnode]
      refine ⟨changes_mono (changes_drop hdirectory) (by rintro _ rfl; exact hl), ?_⟩
      intro l' bytes hl'
      obtain rfl : l = l' := Except.ok.inj (hl.symm.trans hl')
      rw [node?_drop_self (isFixed_eq_false hdirectory)]
      exact Option.some_ne_none _ ∘ Eq.symm

lemma cleared_of_remove_error {fault : FileFault} (h : t.remove p = .error fault) :
    Cleared p t t := by
  refine ⟨changes_of_untouched (untouched_refl t), fun l bytes hl hnode => ?_⟩
  have hremoved : t.remove p = .ok (t.drop l) := by
    unfold Tree.remove
    refine bind_eq_ok.mpr ⟨l, hl, ?_⟩
    simp only [hnode]
    rfl
  rw [hremoved] at h
  simp at h

end TypedTables.Proofs
