import TypedTables.Batch.Report
import TypedTables.Proofs.File.Reading

/-!
# Tables in a row

A batch processes its tables one after the other. Its report accounts for every table once, in the
order of the batch. Where each table changes no places but those of its own paths, what one table
finds differs from the start at the places of the tables before it, and what it leaves stays except
at the places of those behind it.
-/

namespace TypedTables.Proofs

open TreeSystem (tree)

variable {σ : Type} {names : List String} {report : Report}

/-! ### Reports -/

/-- Whether a report says of a table that it came to this result. -/
def Tells (report : Report) (name : String) : Except TableError Unit → Prop
  | .ok () => name ∈ report.succeeded
  | .error e => ⟨name, e⟩ ∈ report.failed

/-- A report has every table once, among those that succeeded or those that failed, and both in the
order of the batch. -/
structure Accounts (names : List String) (report : Report) : Prop where
  succeeded : report.succeeded.Sublist names
  failed : (report.failed.map Failure.name).Sublist names
  once : (report.succeeded ++ report.failed.map Failure.name).Perm names

lemma accounts_cons (h : Accounts names report) (name : String) (result : Except TableError Unit) :
    Accounts (name :: names) (report.cons name result) := by
  cases result with
  | ok u => exact ⟨h.succeeded.cons_cons name, h.failed.cons name, h.once.cons name⟩
  | error e =>
    exact ⟨h.succeeded.cons name, h.failed.cons_cons name,
      List.perm_middle.trans (h.once.cons name)⟩

lemma tells_cons {name first : String} {result result' : Except TableError Unit}
    (h : Tells (report.cons first result') name result) :
    name = first ∧ result = result' ∨ Tells report name result := by
  cases result' with
  | ok u' =>
    cases result with
    | error e => exact Or.inr h
    | ok u =>
      rcases List.mem_cons.mp h with rfl | hmem
      · exact Or.inl ⟨rfl, rfl⟩
      · exact Or.inr hmem
  | error e' =>
    cases result with
    | ok u => exact Or.inr h
    | error e =>
      rcases List.mem_cons.mp h with heq | hmem
      · obtain ⟨rfl, rfl⟩ := Failure.mk.inj heq
        exact Or.inl ⟨rfl, rfl⟩
      · exact Or.inr hmem

/-! ### One table after the other -/

variable [FileSystem (StateM σ)] {kind : String} {process : String → Task (StateM σ) Unit}

/-- The state behind a line of the log. -/
def behindLog (line : LogLine) (s : σ) : σ :=
  (StateT.run (FileSystem.log line : StateM σ Unit) s).2

lemma run_runEach_cons (name : String) (rest : List String) (s : σ) :
    let turn := outcome (process name) (behindLog ⟨.info, s!"generate {kind} '{name}'"⟩ s)
    let others := StateT.run (Batch.runEach kind process rest)
      (behindLog (Batch.outcome kind name turn.1) turn.2)
    StateT.run (Batch.runEach kind process (name :: rest)) s =
      (others.1.cons name turn.1, others.2) := rfl

lemma accounts_runEach {s s' : σ}
    (h : StateT.run (Batch.runEach kind process names) s = (report, s')) :
    Accounts names report := by
  induction names generalizing s report with
  | nil =>
    obtain ⟨rfl, rfl⟩ : ⟨[], []⟩ = report ∧ s = s' := Prod.mk.inj h
    exact ⟨List.Sublist.refl [], List.Sublist.refl [], List.Perm.refl []⟩
  | cons name rest ih =>
    rw [run_runEach_cons] at h
    obtain ⟨rfl, rfl⟩ := Prod.mk.inj h
    exact accounts_cons (ih rfl) name _

/-! ### Tables that keep to their paths -/

/-- Whether a place is that of one of the paths. -/
def IsAt (paths : List Path) (t : Tree) (l : Location) : Prop := ∃ p ∈ paths, t.locate p = .ok l

lemma isAt_of_changes {places : Location → Prop} {t t' : Tree} (h : Changes places t t')
    {paths : List Path} {l : Location} : IsAt paths t' l ↔ IsAt paths t l :=
  exists_congr fun _ => and_congr_right fun _ => locate_of_changes h

lemma avoid_of_ne {paths others : List Path} {t : Tree}
    (h : ∀ p ∈ paths, ∀ q ∈ others, (t.locate p).toOption ≠ (t.locate q).toOption) :
    Avoid paths (IsAt others t) t := by
  rintro p hp l hl ⟨q, hq, hl'⟩
  exact h p hp q hq (by rw [hl, hl'])

/-- Whether a place is that of a path of one of the tables. -/
def IsOf (paths : String → List Path) (names : List String) (t : Tree) (l : Location) : Prop :=
  ∃ name ∈ names, IsAt (paths name) t l

lemma isOf_of_changes {places : Location → Prop} {t t' : Tree} (h : Changes places t t')
    {paths : String → List Path} {l : Location} : IsOf paths names t' l ↔ IsOf paths names t l :=
  exists_congr fun _ => and_congr_right fun _ => isAt_of_changes h

variable [TreeSystem σ] {paths : String → List Path} {s s' : σ}

/-- Whether tables change nothing but the places of their paths. -/
def Confined (paths : String → List Path) (process : String → Task (StateM σ) Unit) : Prop :=
  ∀ name s, Changes (IsAt (paths name) (tree s)) (tree s) (tree (outcome (process name) s).2)

lemma untouched_behindLog (line : LogLine) (s : σ) :
    Untouched (tree s) (tree (behindLog line s)) :=
  TreeSystem.log line s

/-- A table changes the places of its paths, whatever is told around it. -/
lemma changes_turn (h : Confined paths process) (name : String) (line : LogLine)
    (told : Except TableError Unit → LogLine) (s : σ) :
    let turn := outcome (process name) (behindLog line s)
    Changes (IsAt (paths name) (tree s)) (tree s) (tree (behindLog (told turn.1) turn.2)) := by
  intro turn
  have hsame := untouched_behindLog line s
  have hstart : Changes (fun _ => False) (tree s) (tree (behindLog line s)) :=
    changes_of_untouched hsame
  exact changes_mono (changes_congr hsame (h name (behindLog line s))
    (untouched_behindLog (told turn.1) turn.2)) fun l => (isAt_of_changes hstart).mp

theorem changes_runEach (h : Confined paths process) (names : List String) (s : σ) :
    Changes (IsOf paths names (tree s)) (tree s)
      (tree (StateT.run (Batch.runEach kind process names) s).2) := by
  -- The places of the rest are told in the tree behind the first table, which has the same
  -- directories.
  induction names generalizing s with
  | nil => exact changes_of_untouched (untouched_refl _)
  | cons name rest ih =>
    rw [run_runEach_cons]
    have hturn := changes_turn h name ⟨.info, s!"generate {kind} '{name}'"⟩
      (Batch.outcome kind name) s
    apply changes_mono (changes_trans hturn (ih _))
    rintro l (hown | hother)
    · exact ⟨name, List.mem_cons_self, hown⟩
    · obtain ⟨other, hmem, hl⟩ := (isOf_of_changes hturn).mp hother
      exact ⟨other, List.mem_cons_of_mem name hmem, hl⟩

/-- The turn of one table in a batch: the state that it finds, between the tables before it and
those behind it. -/
structure IsTurn (paths : String → List Path) (process : String → Task (StateM σ) Unit)
    (names : List String) (s s' : σ) (name : String) (before after : List String) (found : σ) :
    Prop where
  names_eq : names = before ++ name :: after
  start : Changes (IsOf paths before (tree s)) (tree s) (tree found)
  finish : Changes (IsOf paths after (tree s)) (tree (outcome (process name) found).2) (tree s')

/-- Every result that a report tells comes from the turn of its table. -/
theorem exists_turn (h : Confined paths process)
    (hrun : StateT.run (Batch.runEach kind process names) s = (report, s')) (name : String)
    (result : Except TableError Unit) (htells : Tells report name result) :
    ∃ before after found, IsTurn paths process names s s' name before after found ∧
      (outcome (process name) found).1 = result := by
  induction names generalizing s report with
  | nil =>
    obtain ⟨rfl, rfl⟩ : ⟨[], []⟩ = report ∧ s = s' := Prod.mk.inj hrun
    cases result <;> exact absurd htells List.not_mem_nil
  | cons first rest ih =>
    have hturn := changes_turn h first ⟨.info, s!"generate {kind} '{first}'"⟩
      (Batch.outcome kind first) s
    have hlog := untouched_behindLog ⟨.info, s!"generate {kind} '{first}'"⟩ s
    rw [run_runEach_cons] at hrun
    obtain ⟨rfl, rfl⟩ := Prod.mk.inj hrun
    rcases tells_cons htells with ⟨rfl, rfl⟩ | hrest
    -- The turn of the first table, or a turn among the rest, to which the first is added.
    · refine ⟨[], rest, _, ⟨rfl, changes_of_untouched hlog, ?_⟩, rfl⟩
      refine changes_mono (changes_congr (untouched_behindLog _ _) (changes_runEach h rest _)
        (untouched_refl _)) fun l => ?_
      exact (isOf_of_changes hturn).mp
    · obtain ⟨before, after, found, hfound, hresult⟩ := ih rfl hrest
      refine ⟨first :: before, after, found, ⟨by rw [hfound.names_eq]; rfl, ?_, ?_⟩, hresult⟩
      · apply changes_mono (changes_trans hturn hfound.start)
        rintro l (hown | hother)
        · exact ⟨first, List.mem_cons_self, hown⟩
        · obtain ⟨other, hmem, hl⟩ := (isOf_of_changes hturn).mp hother
          exact ⟨other, List.mem_cons_of_mem first hmem, hl⟩
      · exact changes_mono hfound.finish fun l => (isOf_of_changes hturn).mp

lemma avoid_of_turn {reads : List Path} {t : Tree} {name : String} {before after : List String}
    {found : σ} (hnodup : names.Nodup)
    (hturn : IsTurn paths process names s s' name before after found)
    (hapart : ∀ other ∈ names, other ≠ name → Avoid reads (IsAt (paths other) t) t) :
    Avoid reads (IsOf paths before t) t ∧ Avoid reads (IsOf paths after t) t := by
  have hothers : ∀ other, other ∈ before ∨ other ∈ after → other ∈ names ∧ other ≠ name := by
    have hnames := hturn.names_eq
    have hrest := List.nodup_middle.mp (hnames ▸ hnodup)
    intro other hother
    refine ⟨by rw [hnames, List.mem_append, List.mem_cons]; tauto, ?_⟩
    rintro rfl
    exact (List.nodup_cons.mp hrest).1 (List.mem_append.mpr hother)
  refine ⟨fun p hp l hl => ?_, fun p hp l hl => ?_⟩
  · rintro ⟨other, hmem, hother⟩
    obtain ⟨hin, hne⟩ := hothers other (Or.inl hmem)
    exact hapart other hin hne p hp l hl hother
  · rintro ⟨other, hmem, hother⟩
    obtain ⟨hin, hne⟩ := hothers other (Or.inr hmem)
    exact hapart other hin hne p hp l hl hother

lemma outcome_of_prepared {prepare : Task (StateM σ) Unit} {ready : σ}
    (h : outcome prepare s = (.ok (), ready)) (names : List String) :
    let ending := StateT.run (Batch.runEach kind process names) ready
    ∃ s', outcome (prepare >>= fun _ => liftM (Batch.run kind process names : StateM σ Report)) s =
      (.ok ending.1, s') ∧ Untouched (tree ending.2) (tree s') := by
  rw [outcome_bind_ok h, outcome_lift]
  exact ⟨_, rfl, untouched_behindLog _ _⟩

lemma outcome_of_single {prepare : Task (StateM σ) Unit} {ready : σ}
    (h : outcome prepare s = (.ok (), ready)) (kind : String)
    (process : String → Task (StateM σ) Unit) (name : String) :
    ∃ start s', Untouched (tree ready) (tree start) ∧
      outcome (prepare >>= fun _ => liftM (Batch.run kind process [name] : StateM σ Report)) s =
        (.ok (Report.cons ⟨[], []⟩ name (outcome (process name) start).1), s') ∧
      Untouched (tree (outcome (process name) start).2) (tree s') := by
  obtain ⟨s', hs', hsame⟩ := outcome_of_prepared h [name]
  rw [run_runEach_cons] at hs' hsame
  exact ⟨_, s', untouched_behindLog _ ready, hs', untouched_trans (untouched_behindLog _ _) hsame⟩

lemma runEach_of_outcome {prepare : Task (StateM σ) Unit}
    (h : outcome (prepare >>= fun _ => liftM (Batch.run kind process names : StateM σ Report)) s =
      (.ok report, s')) :
    outcome prepare s = (.ok (), (outcome prepare s).2) ∧
    ∃ done, StateT.run (Batch.runEach kind process names) (outcome prepare s).2 = (report, done) ∧
      Untouched (tree done) (tree s') := by
  rcases hprepare : outcome prepare s with ⟨result, ready⟩
  cases result with
  | error e =>
    rw [outcome_bind_error hprepare] at h
    cases h
  | ok u =>
    obtain ⟨ending, hending, hsame⟩ := outcome_of_prepared hprepare names
    obtain ⟨hreport, rfl⟩ := Prod.mk.inj (hending.symm.trans h)
    exact ⟨rfl, _, Prod.ext (Except.ok.inj hreport) rfl, hsame⟩

end TypedTables.Proofs
