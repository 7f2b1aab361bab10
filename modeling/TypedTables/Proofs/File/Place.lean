import TypedTables.Proofs.File.Tree

/-!
# Paths to one file

A path leads to one place, whether it is spelled from the working directory or from the top. A path
that leads to a file ends in the name of the file, and all that stands before the name leads to a
directory. So two paths lead to the same file exactly if they end in the same name and their
directories are the same place, however these are spelled.
-/

namespace TypedTables

/-- The name that a path ends in. Paths that end in a slash or in dots lead to directories. -/
def Path.fileName? (p : Path) : Option String :=
  p.pieces.getLast?.filter fun piece => !isIdle piece && piece != ".."

/-- A path as it is spelled from the top. -/
def Tree.absolute (t : Tree) (p : Path) : Path :=
  if p.isAbsolute then p else ⟨"" :: (t.working.names ++ p.pieces)⟩

/-- The directory in which a path has its last piece. -/
def Tree.folder (t : Tree) (p : Path) : Except FileFault Location := do
  let l ← p.pieces.dropLast.foldlM t.step (← t.start p)
  t.enter l
  return l

namespace Proofs

variable {t : Tree} {p q : Path} {l next : Location} {piece name : String}

/-- Whether two paths lead to one place, at which there is no directory. -/
def SharesFile (t : Tree) (p q : Path) : Prop :=
  ∃ l, t.locate p = .ok l ∧ t.locate q = .ok l ∧ t.node? l ≠ some .directory

lemma fileName?_eq_some : p.fileName? = some name ↔
    p.pieces.getLast? = some name ∧ Path.isIdle name = false ∧ name ≠ ".." := by
  simp [Path.fileName?, Option.filter_eq_some_iff]

lemma child_inj {l l' : Location} {name name' : String} (h : l.child name = l'.child name') :
    l = l' ∧ name = name' := by
  obtain ⟨names⟩ := l
  obtain ⟨names'⟩ := l'
  simp only [Location.child, Location.mk.injEq] at h
  obtain ⟨rfl, hname⟩ := List.append_inj' h rfl
  exact ⟨rfl, List.singleton_inj.mp hname⟩

lemma folder_eq_ok : t.folder p = .ok l ↔ ∃ origin, t.start p = .ok origin ∧
    p.pieces.dropLast.foldlM t.step origin = .ok l ∧ t.node? l = some .directory := by
  unfold Tree.folder
  simp only [bind_eq_ok, pure_eq_ok, enter_eq_ok]
  refine exists_congr fun origin => and_congr_right fun _ => ?_
  constructor
  · rintro ⟨l', hfold, -, henter, rfl⟩
    exact ⟨hfold, henter⟩
  · rintro ⟨hfold, henter⟩
    exact ⟨l, hfold, (), henter, rfl⟩

/-- The last step of a path is made in its directory. -/
lemma locate_of_getLast? (h : p.pieces.getLast? = some piece) : t.locate p = .ok l ↔
    ∃ above, t.folder p = .ok above ∧ t.step above piece = .ok l := by
  have hstep : ∀ above, t.step above piece = .ok l → t.node? above = some .directory := by
    intro above hstep
    obtain ⟨u, henter, -⟩ := bind_eq_ok.mp hstep
    exact enter_eq_ok.mp henter
  unfold Tree.locate
  rw [← List.dropLast_append_getLast? piece h]
  simp only [bind_eq_ok, List.foldlM_append, List.foldlM_cons, List.foldlM_nil, bind_pure,
    folder_eq_ok]
  constructor
  · rintro ⟨origin, hstart, above, hfold, hl⟩
    exact ⟨above, ⟨origin, hstart, hfold, hstep above hl⟩, hl⟩
  · rintro ⟨above, ⟨origin, hstart, hfold, -⟩, hl⟩
    exact ⟨origin, hstart, above, hfold, hl⟩

lemma locate_of_fileName (h : p.fileName? = some name) : t.locate p = .ok l ↔
    ∃ above, t.folder p = .ok above ∧ Tree.checkName name = .ok () ∧ above.child name = l := by
  obtain ⟨hlast, hidle, hdots⟩ := fileName?_eq_some.mp h
  rw [locate_of_getLast? hlast]
  refine exists_congr fun above => and_congr_right fun hfolder => ?_
  obtain ⟨-, -, -, henter⟩ := folder_eq_ok.mp hfolder
  unfold Tree.step
  simp only [hidle, hdots, Bool.false_eq_true, if_false, bind_eq_ok, pure_eq_ok, enter_eq_ok,
    Unique.exists_iff, PUnit.default_eq_unit, henter, true_and]

/-! ### The way to a place -/

/-- Whether all places above a place are directories. -/
def IsReached (t : Tree) (l : Location) : Prop :=
  ∀ k < l.names.length, t.node? ⟨l.names.take k⟩ = some .directory

lemma isReached_parent (h : IsReached t l) : IsReached t l.parent := by
  intro k hk
  rw [Location.parent, List.length_dropLast] at hk
  rw [Location.parent, List.dropLast_eq_take, List.take_take, min_eq_left (by omega)]
  exact h k (by omega)

/-- The place above one that is reached is a directory. -/
lemma node?_parent (h : IsReached t l) : t.node? l.parent = some .directory := by
  by_cases hnil : l.names = []
  · exact if_pos (by rw [Location.parent, hnil]; rfl)
  · have hlength := List.length_pos_iff.mpr hnil
    rw [Location.parent, List.dropLast_eq_take]
    exact h _ (by omega)

lemma isReached_step (h : IsReached t l) (hstep : t.step l piece = .ok next) :
    IsReached t next := by
  unfold Tree.step at hstep
  obtain ⟨u, henter, hstep⟩ := bind_eq_ok.mp hstep
  rw [enter_eq_ok] at henter
  split at hstep
  · rwa [← pure_eq_ok.mp hstep]
  · split at hstep
    · rw [← pure_eq_ok.mp hstep]
      exact isReached_parent h
    · obtain ⟨u, -, hstep⟩ := bind_eq_ok.mp hstep
      rw [← pure_eq_ok.mp hstep]
      intro k hk
      simp only [Location.child, List.length_append, List.length_singleton] at hk ⊢
      rw [List.take_append_of_le_length (by omega)]
      by_cases hlast : k = l.names.length
      · rw [hlast, List.take_length]
        exact henter
      · exact h k (by omega)

lemma isReached_foldlM {pieces : List String} (h : IsReached t l)
    (hfold : pieces.foldlM t.step l = .ok next) : IsReached t next := by
  induction pieces generalizing l with
  | nil => rwa [← pure_eq_ok.mp hfold]
  | cons piece pieces ih =>
    rw [List.foldlM_cons] at hfold
    obtain ⟨between, hstep, hfold⟩ := bind_eq_ok.mp hfold
    exact ih (isReached_step h hstep) hfold

lemma isFixed_take (k : Nat) : t.isFixed ⟨t.working.names.take k⟩ = true :=
  List.isPrefixOf_iff_prefix.mpr (List.take_prefix k _)

lemma start_eq_ok (h : t.start p = .ok l) : l = if p.isAbsolute then .top else t.working := by
  unfold Tree.start at h
  split at h
  · cases h
  · split at h
    · cases h
    · split at h
      · cases h
      · exact (Except.ok.inj h).symm

lemma isReached_start (h : t.start p = .ok l) : IsReached t l := by
  rw [start_eq_ok h]
  intro k hk
  split at hk
  · exact absurd hk (Nat.not_lt_zero k)
  · next hrelative =>
    rw [if_neg hrelative]
    exact if_pos (isFixed_take k)

lemma isReached_folder (h : t.folder p = .ok l) : IsReached t l := by
  obtain ⟨origin, hstart, hfold, -⟩ := folder_eq_ok.mp h
  exact isReached_foldlM (isReached_start hstart) hfold

/-- A path that does not end in a name leads to a directory if anywhere. -/
lemma node?_of_fileName_eq_none (h : p.fileName? = none) (hl : t.locate p = .ok l) :
    t.node? l = some .directory := by
  cases hlast : p.pieces.getLast? with
  | none =>
    have hempty : p.isEmpty = true := by simp [Path.isEmpty, List.getLast?_eq_none_iff.mp hlast]
    obtain ⟨origin, hstart, -⟩ := bind_eq_ok.mp hl
    rw [Tree.start, if_pos hempty] at hstart
    cases hstart
  | some piece =>
    obtain ⟨above, hfolder, hstep⟩ := (locate_of_getLast? hlast).mp hl
    obtain ⟨-, -, -, henter⟩ := folder_eq_ok.mp hfolder
    unfold Tree.step at hstep
    obtain ⟨u, -, hstep⟩ := bind_eq_ok.mp hstep
    split at hstep
    · rwa [← pure_eq_ok.mp hstep]
    · next hidle =>
      split at hstep
      · rw [← pure_eq_ok.mp hstep]
        exact node?_parent (isReached_folder hfolder)
      · next hdots =>
        have hname := fileName?_eq_some.mpr ⟨hlast, by simpa using hidle, hdots⟩
        rw [hname] at h
        cases h

/-! ### Spellings -/

/-- Whether a piece of a path is the name of something. -/
structure IsName (piece : String) : Prop where
  idle : Path.isIdle piece = false
  dots : piece ≠ ".."
  short : Tree.checkName piece = .ok ()

lemma step_of_isName (h : IsName piece) (hl : t.node? l = some .directory) :
    t.step l piece = .ok (l.child piece) := by
  unfold Tree.step
  refine bind_eq_ok.mpr ⟨(), enter_eq_ok.mpr hl, ?_⟩
  rw [if_neg (Bool.eq_false_iff.mp h.idle), if_neg h.dots]
  exact bind_eq_ok.mpr ⟨(), h.short, rfl⟩

/-- The names of the working directory lead to it. -/
lemma foldlM_working {done rest : List String} (hnames : ∀ name ∈ t.working.names, IsName name)
    (h : t.working.names = done ++ rest) : rest.foldlM t.step ⟨done⟩ = .ok t.working := by
  induction rest generalizing done with
  | nil =>
    rw [List.append_nil] at h
    rw [← h]
    rfl
  | cons name rest ih =>
    have hfixed : t.isFixed ⟨done⟩ = true :=
      List.isPrefixOf_iff_prefix.mpr (h ▸ List.prefix_append done _)
    have hname : IsName name := hnames name (by simp [h])
    rw [List.foldlM_cons]
    refine bind_eq_ok.mpr ⟨_, step_of_isName hname (if_pos hfixed), ih ?_⟩
    rw [h, List.append_assoc, List.singleton_append]

lemma pieces_ne_nil (h : t.start p = .ok l) : p.pieces ≠ [] := by
  intro hnil
  rw [Tree.start, if_pos (by simp [Path.isEmpty, hnil])] at h
  cases h

lemma isAbsolute_absolute (h : p.pieces ≠ []) : (t.absolute p).isAbsolute = true := by
  unfold Tree.absolute
  split
  · assumption
  · cases hrest : t.working.names ++ p.pieces with
    | nil => exact absurd (List.append_eq_nil_iff.mp hrest).2 h
    | cons first rest => rfl

/-- A path leads to the same place when it is spelled from the top. -/
theorem locate_absolute (hnames : ∀ name ∈ t.working.names, IsName name)
    (hstart : t.start p = .ok l) (habsolute : t.start (t.absolute p) = .ok next) :
    t.locate (t.absolute p) = t.locate p := by
  by_cases hp : p.isAbsolute
  · rw [Tree.absolute, if_pos hp]
  have htop : next = .top := by
    rw [start_eq_ok habsolute, if_pos (isAbsolute_absolute (pieces_ne_nil hstart))]
  have hworking : ("" :: t.working.names).foldlM t.step .top = .ok t.working := by
    rw [List.foldlM_cons]
    refine bind_eq_ok.mpr ⟨.top, ?_, foldlM_working hnames rfl⟩
    exact bind_eq_ok.mpr ⟨(), enter_eq_ok.mpr (if_pos rfl), rfl⟩
  have hpieces : (t.absolute p).pieces = ("" :: t.working.names) ++ p.pieces := by
    rw [Tree.absolute, if_neg hp]
    rfl
  unfold Tree.locate
  rw [habsolute, hstart, start_eq_ok hstart, if_neg hp, htop, hpieces]
  change List.foldlM t.step .top _ = List.foldlM t.step _ _
  rw [List.foldlM_append, hworking]
  rfl

/-- One file, as it is spelled from the working directory, from the top, and on a way through the
directory above. -/
example : let t : Tree := ⟨⟨["work"]⟩, [(⟨["work", "out"]⟩, .directory)]⟩
    t.locate ⟨["out", "hero.rs"]⟩ = .ok ⟨["work", "out", "hero.rs"]⟩ ∧
      t.locate ⟨["", "work", "out", "hero.rs"]⟩ = .ok ⟨["work", "out", "hero.rs"]⟩ ∧
        t.locate ⟨["..", "work", "out", "hero.rs"]⟩ = .ok ⟨["work", "out", "hero.rs"]⟩ :=
  ⟨rfl, rfl, rfl⟩

/-! ### One file -/

/-- Two paths lead to one file exactly if they end in one name, in one directory. -/
theorem sharesFile_iff : SharesFile t p q ↔ ∃ l name, p.fileName? = some name ∧
    q.fileName? = some name ∧ t.folder p = .ok l ∧ t.folder q = .ok l ∧
    Tree.checkName name = .ok () ∧ t.node? (l.child name) ≠ some .directory := by
  constructor
  · rintro ⟨l, hp, hq, hfile⟩
    obtain ⟨name, hname⟩ := Option.ne_none_iff_exists'.mp fun h =>
      hfile (node?_of_fileName_eq_none h hp)
    obtain ⟨name', hname'⟩ := Option.ne_none_iff_exists'.mp fun h =>
      hfile (node?_of_fileName_eq_none h hq)
    obtain ⟨above, habove, hcheck, rfl⟩ := (locate_of_fileName hname).mp hp
    obtain ⟨above', habove', -, hsame⟩ := (locate_of_fileName hname').mp hq
    obtain ⟨rfl, rfl⟩ := child_inj hsame
    exact ⟨_, _, hname, hname', habove, habove', hcheck, hfile⟩
  · rintro ⟨l, name, hp, hq, habove, habove', hcheck, hfile⟩
    exact ⟨l.child name, (locate_of_fileName hp).mpr ⟨l, habove, hcheck, rfl⟩,
      (locate_of_fileName hq).mpr ⟨l, habove', hcheck, rfl⟩, hfile⟩

end Proofs

end TypedTables
