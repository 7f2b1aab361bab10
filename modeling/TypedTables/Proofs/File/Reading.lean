import TypedTables.Proofs.File.System

/-!
# What reading depends on

Reading a path depends on the directories and on what is at its place. So work that only reads gives
the same in two states whose trees differ at other places.
-/

namespace TypedTables.Proofs

open FileSystem (readText located)
open TreeSystem (tree)

variable {σ α β : Type}

/-- Whether none of the paths leads to one of the places. -/
def Avoid (paths : List Path) (places : Location → Prop) (t : Tree) : Prop :=
  ∀ p ∈ paths, ∀ l, t.locate p = .ok l → ¬places l

lemma avoid_mono {paths paths' : List Path} {places : Location → Prop} {t : Tree}
    (h : Avoid paths places t) (hpaths : paths' ⊆ paths) : Avoid paths' places t :=
  fun p hp => h p (hpaths hp)

lemma avoid_of_mem {paths : List Path} {p : Path} {places : Location → Prop} {t : Tree}
    (h : Avoid paths places t) (hp : p ∈ paths) : Avoid [p] places t :=
  avoid_mono h (List.cons_subset.mpr ⟨hp, List.nil_subset _⟩)

lemma avoid_of_changes {paths : List Path} {places changed : Location → Prop} {t t' : Tree}
    (h : Avoid paths places t) (hchanges : Changes changed t t') : Avoid paths places t' :=
  fun p hp l hl => h p hp l ((locate_of_changes hchanges).mp hl)

lemma avoid_of_untouched {paths : List Path} {places : Location → Prop} {t t' : Tree}
    (h : Avoid paths places t) (hsame : Untouched t t') : Avoid paths places t' :=
  avoid_of_changes h (changes_of_untouched hsame : Changes (fun _ => False) t t')

/-- Trees that are as before differ as they did before. -/
lemma changes_between {places : Location → Prop} {t₀ t₀' t t' : Tree} (h : Changes places t₀ t₀')
    (hsame : Untouched t₀ t) (hsame' : Untouched t₀' t') : Changes places t t' :=
  changes_congr (untouched_symm hsame) h hsame'

/-- Systems in which reading a path depends on the directories and on what is at its place. -/
class ReadableSystem (σ : Type) [FileSystem (StateM σ)] extends TreeSystem σ where
  isFile_eq : ∀ {p : Path} {places : Location → Prop} {s s' : σ},
    Changes places (tree s) (tree s') → Avoid [p] places (tree s) →
      (StateT.run (FileSystem.isFile p : StateM σ _) s').1 =
        (StateT.run (FileSystem.isFile p : StateM σ _) s).1
  readBytes_eq : ∀ {p : Path} {places : Location → Prop} {s s' : σ} {bytes : List UInt8},
    Changes places (tree s) (tree s') → Avoid [p] places (tree s) →
      (StateT.run (FileSystem.readBytes p : StateM σ _) s).1 = .ok bytes →
        (StateT.run (FileSystem.readBytes p : StateM σ _) s').1 = .ok bytes

variable [FileSystem (StateM σ)]

lemma run_readText (p : Path) (s : σ) :
    (StateT.run (readText p : StateM σ _) s).1 =
      match (StateT.run (FileSystem.readBytes p : StateM σ _) s).1 with
      | .error fault => .error fault
      | .ok bytes =>
        match Wire.ofUtf8? bytes with
        | some text => .ok text
        | none => .error .notText := by
  unfold readText
  rw [StateT.run_bind]
  rcases StateT.run (FileSystem.readBytes p : StateM σ _) s with ⟨result, s'⟩
  cases result with
  | error fault => rfl
  | ok bytes =>
    dsimp only [Id.run, bind, pure]
    cases Wire.ofUtf8? bytes <;> rfl

variable [ReadableSystem σ] {paths : List Path} {p : Path}

/-- Whether work that succeeds gives the same where the paths and the directories are the same. -/
def DependsOn (paths : List Path) (work : Task (StateM σ) α) : Prop :=
  ∀ {s s' : σ} {places : Location → Prop} {a : α}, Changes places (tree s) (tree s') →
    Avoid paths places (tree s) → (outcome work s).1 = .ok a → (outcome work s').1 = .ok a

lemma dependsOn_throw_bind (e : TableError) (f : α → Task (StateM σ) β) :
    DependsOn paths ((throw e : Task (StateM σ) α) >>= f) := by
  intro s s' places b _ _ h
  rw [outcome_bind_error (outcome_throw e s)] at h
  cases h

lemma dependsOn_of_result {work : Task (StateM σ) α} {x : Except TableError α}
    (h : ∀ s, (outcome work s).1 = x) : DependsOn paths work := by
  intro s s' places a _ _ hok
  rw [h] at hok ⊢
  exact hok

lemma dependsOn_pure (a : α) : DependsOn paths (pure a : Task (StateM σ) α) :=
  dependsOn_of_result fun _ => rfl

lemma dependsOn_ofExcept (x : Except TableError α) :
    DependsOn paths (ofExcept x : Task (StateM σ) α) :=
  dependsOn_of_result fun s => by rw [outcome_ofExcept]

lemma dependsOn_bind {work : Task (StateM σ) α} {f : α → Task (StateM σ) β}
    (h : DependsOn paths work) (hquiet : Quiet work) (hf : ∀ a, DependsOn paths (f a)) :
    DependsOn paths (work >>= f) := by
  intro s s' places b hchanges havoid hok
  have hsame := hquiet s
  have hsame' := hquiet s'
  rcases hending : outcome work s with ⟨result, next⟩
  cases result with
  | error e =>
    rw [outcome_bind_error hending] at hok
    cases hok
  | ok a =>
    have hother : (outcome work s').1 = .ok a := h hchanges havoid (by rw [hending])
    rcases hending' : outcome work s' with ⟨result', next'⟩
    rw [hending'] at hother hsame'
    obtain rfl : result' = .ok a := hother
    rw [hending] at hsame
    rw [outcome_bind_ok hending] at hok
    rw [outcome_bind_ok hending']
    exact hf a (changes_between hchanges hsame hsame') (avoid_of_untouched havoid hsame) hok

lemma dependsOn_lift {action : StateM σ α} (h : ∀ {s s' : σ} {places : Location → Prop},
      Changes places (tree s) (tree s') → Avoid paths places (tree s) →
        (StateT.run action s').1 = (StateT.run action s).1) :
    DependsOn paths (liftM action : Task (StateM σ) α) := by
  intro s s' places a hchanges havoid hok
  rw [outcome_lift] at hok ⊢
  rw [h hchanges havoid]
  exact hok

lemma dependsOn_isFile (hp : p ∈ paths) :
    DependsOn paths (liftM (FileSystem.isFile p : StateM σ Bool) : Task (StateM σ) Bool) :=
  dependsOn_lift fun hchanges havoid =>
    ReadableSystem.isFile_eq hchanges (avoid_of_mem havoid hp)

lemma readText_eq {places : Location → Prop} {s s' : σ} {text : String}
    (hchanges : Changes places (tree s) (tree s')) (havoid : Avoid [p] places (tree s))
    (h : (StateT.run (readText p : StateM σ _) s).1 = .ok text) :
    (StateT.run (readText p : StateM σ _) s').1 = .ok text := by
  rw [run_readText] at h ⊢
  cases hbytes : (StateT.run (FileSystem.readBytes p : StateM σ _) s).1 with
  | error fault =>
    rw [hbytes] at h
    cases h
  | ok bytes =>
    rw [hbytes] at h
    rw [ReadableSystem.readBytes_eq hchanges havoid hbytes]
    exact h

/-- Reading a text, with a continuation that fails if the text cannot be read. -/
lemma dependsOn_readText (hp : p ∈ paths) {f : Except FileFault String → Task (StateM σ) β}
    (herror : ∀ fault s b, (outcome (f (.error fault)) s).1 ≠ .ok b)
    (hf : ∀ text, DependsOn paths (f (.ok text))) :
    DependsOn paths ((liftM (readText p : StateM σ _) : Task (StateM σ) _) >>= f) := by
  intro s s' places b hchanges havoid hok
  rw [outcome_bind_ok (outcome_lift _ s)] at hok
  rw [outcome_bind_ok (outcome_lift _ s')]
  cases htext : (StateT.run (readText p : StateM σ _) s).1 with
  | error fault =>
    rw [htext] at hok
    exact absurd hok (herror fault _ b)
  | ok text =>
    have hother := readText_eq hchanges (avoid_of_mem havoid hp) htext
    have hsame := untouched_readText p s
    have hsame' := untouched_readText p s'
    rw [htext] at hok
    rw [hother]
    exact hf text (changes_between hchanges hsame hsame') (avoid_of_untouched havoid hsame) hok

end TypedTables.Proofs
