import TypedTables.Proofs.Schema.Lint
import TypedTables.Proofs.Table.Sound
import TypedTables.Proofs.Text.Split

/-!
# Where an unfit key is reported

A schema whose columns cannot be collected has one finding for the key at fault. Its place is looked up
by the wording of the fault, so it lies on the first data column whose name occurs there. That is the
column at fault unless an earlier one has a name that occurs in the wording by chance.
-/

namespace TypedTables

/-- Whether the name of the column occurs in the wording. -/
def KeyFault.Mentions (fault : KeyFault) (f : Field) : Prop :=
  f.name.toList <:+: fault.message.toList

/-- The findings for keys that do not fit. -/
def keyFindings (findings : List Finding) : List Finding :=
  findings.filter fun m => m.cause.rule == "invalid-collection-key"

/-- Whether the column is the first data column with a property. -/
structure Schema.IsFirst (s : Schema) (P : Field → Prop) (f : Field) : Prop where
  mem : f ∈ s.dataFields
  holds : P f
  le : ∀ g ∈ s.dataFields, P g → f.column ≤ g.column

namespace Proofs

variable {grid : Grid} {layout : DataTableLayout} {types : Registry} {t : DataTable} {s : Schema}
variable {fault : KeyFault} {f : Field}

/-! ### First columns -/

section First

variable {P : Field → Prop} (hsorted : s.fields.Pairwise fun f g => f.column < g.column)

include hsorted

lemma isFirst_of_split {before after : List Field} (hsplit : s.dataFields = before ++ f :: after)
    (hf : P f) (hbefore : ∀ g ∈ before, ¬P g) : s.IsFirst P f := by
  have hdata : s.dataFields.Pairwise fun f g => f.column < g.column := hsorted.filter _
  rw [hsplit] at hdata
  obtain ⟨-, hrest, -⟩ := List.pairwise_append.mp hdata
  refine ⟨by simp [hsplit], hf, ?_⟩
  intro g hg hP
  rw [hsplit] at hg
  rcases List.mem_append.mp hg with hg | hg
  · exact absurd hP (hbefore g hg)
  · rcases List.mem_cons.mp hg with rfl | hg
    · exact le_rfl
    · exact ((List.pairwise_cons.mp hrest).1 g hg).le

lemma exists_isFirst_of_collections (h : s.collections = .error fault) :
    ∃ bad, s.IsFirst Field.HasUnfitKey bad ∧ bad.name = fault.name := by
  rw [collections_eq_error, List.findSome?_eq_some_iff] at h
  obtain ⟨before, bad, after, hsplit, hbad, hbefore⟩ := h
  refine ⟨bad, isFirst_of_split hsorted hsplit (exists_keyFault_iff.mp ⟨fault, hbad⟩) ?_, ?_⟩
  · intro g hg hunfit
    obtain ⟨fault', hfault'⟩ := exists_keyFault_iff.mpr hunfit
    have hnone := hbefore g hg
    rw [hfault'] at hnone
    cases hnone
  · obtain ⟨stem, digits, -, -, rfl⟩ := keyFault?_eq_some.mp hbad
    rfl

end First

/-! ### Findings -/

lemma mentions_of_name_eq (h : f.name = fault.name) : fault.Mentions f := by
  have hmessage : fault.message = "column " ++ fault.name ++
      s!": suffix '{fault.digits}' does not fit in i32" := by
    simp only [KeyFault.message, String.append_assoc]
    rfl
  unfold KeyFault.Mentions
  rw [hmessage, h, String.toList_append, String.toList_append]
  exact ⟨_, _, rfl⟩

lemma keyFinding_eq (hsorted : s.fields.Pairwise fun f g => f.column < g.column)
    (hmentioned : ∃ f ∈ s.dataFields, fault.Mentions f) : ∃ located,
      s.IsFirst fault.Mentions located ∧
      Lint.keyFinding s fault = located.finding (.invalidCollectionKey fault) := by
  have hmentions : ∀ f : Field,
      Text.occursIn f.name.toList fault.message.toList = true ↔ fault.Mentions f :=
    fun f => occursIn_eq_true
  cases hfind : s.dataFields.find? fun f =>
      Text.occursIn f.name.toList fault.message.toList with
  | none =>
    obtain ⟨f, hf, hmentioned⟩ := hmentioned
    exact absurd ((hmentions f).mpr hmentioned) (List.find?_eq_none.mp hfind f hf)
  | some located =>
    obtain ⟨hlocated, before, after, hsplit, hbefore⟩ := List.find?_eq_some_iff_append.mp hfind
    refine ⟨located, isFirst_of_split hsorted hsplit ((hmentions located).mp hlocated) ?_, ?_⟩
    · intro g hg hmentioned
      have hnot := hbefore g hg
      simp [(hmentions g).mpr hmentioned] at hnot
    · unfold Lint.keyFinding
      rw [hfind]

lemma keyFindings_cons_of_ne {m : Finding} {rest : List Finding}
    (h : m.cause.rule ≠ "invalid-collection-key") :
    keyFindings (m :: rest) = keyFindings rest :=
  List.filter_cons_of_neg (by simpa using h)

lemma keyFindings_nameFindings (seen : List (String × String)) (fields : List Field) :
    keyFindings (Lint.nameFindings seen fields) = [] := by
  induction fields generalizing seen with
  | nil => rfl
  | cons f rest ih =>
    rw [Lint.nameFindings]
    dsimp only
    split_ifs with hinvalid hreserved
    · rw [keyFindings_cons_of_ne (by simp [Field.finding, LintCause.rule]), ih]
    · rw [keyFindings_cons_of_ne (by simp [Field.finding, LintCause.rule]), ih]
    · split
      · rw [keyFindings_cons_of_ne (by simp [Field.finding, LintCause.rule]), ih]
      · exact ih _

/-- A schema whose columns cannot be collected has one finding for a key. -/
lemma keyFindings_lint (h : s.collections = .error fault) :
    keyFindings s.lint = [Lint.keyFinding s fault] := by
  have hrule : (Lint.keyFinding s fault).cause.rule = "invalid-collection-key" := by
    unfold Lint.keyFinding
    split <;> rfl
  have hfindings : keyFindings (Lint.nameFindings [] s.fields ++ [Lint.keyFinding s fault]) =
      [Lint.keyFinding s fault] := by
    have hnames := keyFindings_nameFindings [] s.fields
    unfold keyFindings at hnames ⊢
    rw [List.filter_append, hnames, List.nil_append, List.filter_cons_of_pos (by simpa using hrule),
      List.filter_nil]
  have hsorted : s.lint.Perm (Lint.nameFindings [] s.fields ++ [Lint.keyFinding s fault]) := by
    simp only [Schema.lint, h]
    exact List.mergeSort_perm _ _
  apply List.perm_singleton.mp
  rw [← hfindings]
  exact hsorted.filter _

/-! ### Tables -/

/-- If the columns of a table cannot be collected, then one finding says so. It is on the first data
column whose name occurs in its wording, which is the first one with an unfit key exactly if no name
of an earlier data column occurs there. -/
theorem keyFindings_of_ofGrid (h : DataTable.ofGrid grid layout types = .ok t) :
    ∃ s, t.schema = .ok s ∧ ∀ fault, s.collections = .error fault → ∃ bad located,
      s.IsFirst Field.HasUnfitKey bad ∧ s.IsFirst fault.Mentions located ∧
      keyFindings s.lint = [located.finding (.invalidCollectionKey fault)] ∧
      (located.column = bad.column ∧ located.name = bad.name ↔
        ∀ f ∈ s.dataFields, f.column < bad.column → ¬fault.Mentions f) := by
  obtain ⟨s, hs⟩ := exists_schema (accepted_of_ofGrid h)
  refine ⟨s, hs, fun fault hfault => ?_⟩
  have hsorted := pairwise_columns hs
  obtain ⟨bad, hbad, hname⟩ := exists_isFirst_of_collections hsorted hfault
  have hmentioned := mentions_of_name_eq hname
  obtain ⟨located, hlocated, hfinding⟩ := keyFinding_eq hsorted ⟨bad, hbad.mem, hmentioned⟩
  refine ⟨bad, located, hbad, hlocated, by rw [keyFindings_lint hfault, hfinding], ?_⟩
  have hle := hlocated.le bad hbad.mem hmentioned
  constructor
  · rintro ⟨hcolumn, -⟩ f hf hlt hearlier
    have hge := hlocated.le f hf hearlier
    omega
  · intro hnone
    have hge : ¬located.column < bad.column := fun hlt =>
      hnone located hlocated.mem hlt hlocated.holds
    have hcolumn : located.column = bad.column := by omega
    have hsame := field_eq_of_column_eq hs (List.mem_of_mem_filter hlocated.mem)
      (List.mem_of_mem_filter hbad.mem) hcolumn
    exact ⟨hcolumn, by rw [hsame]⟩

/-- The slot is named in the wording of the fault in the column behind it. -/
def slotGrid : Grid where
  rows := [["", "Slots", "", ""], ["", "Id", "Slot", "Slot99999999999"], ["", "int", "int", "int"],
    ["", "", "", ""]]
  rectangular := by decide

lemma exists_slots : ∃ t s fault, DataTable.ofGrid slotGrid {} .standard = .ok t ∧
    t.schema = .ok s ∧ s.collections = .error fault ∧
    (keyFindings s.lint).map (fun m => (m.column, m.name)) = [(2, "Slot")] := by
  have hfound : ((DataTable.ofGrid slotGrid {} .standard).toOption.bind fun t =>
      t.schema.toOption.map fun s =>
        (s.collections.toOption.isNone, (keyFindings s.lint).map fun m => (m.column, m.name))) =
      some (true, [(2, "Slot")]) := by
    decide +kernel
  obtain ⟨t, ht, hfound⟩ := Option.bind_eq_some_iff.mp hfound
  obtain ⟨s, hs, hfound⟩ := Option.map_eq_some_iff.mp hfound
  obtain ⟨hnone, hfindings⟩ := Prod.mk.inj hfound
  cases hcollections : s.collections with
  | ok collections =>
    rw [hcollections] at hnone
    cases hnone
  | error fault =>
    exact ⟨t, s, fault, toOption_eq_some.mp ht, toOption_eq_some.mp hs, hcollections, hfindings⟩

theorem keyFindings_of_ofGrid_slots : ∃ t s fault,
    DataTable.ofGrid slotGrid {} .standard = .ok t ∧ t.schema = .ok s ∧
    s.collections = .error fault ∧ ∃ bad located,
      s.IsFirst Field.HasUnfitKey bad ∧ s.IsFirst fault.Mentions located ∧
      keyFindings s.lint = [located.finding (.invalidCollectionKey fault)] ∧
      (located.column = bad.column ∧ located.name = bad.name ↔
        ∀ f ∈ s.dataFields, f.column < bad.column → ¬fault.Mentions f) := by
  obtain ⟨t, s, fault, ht, hs, hfault, -⟩ := exists_slots
  obtain ⟨s', hs', hlocated⟩ := keyFindings_of_ofGrid ht
  obtain rfl : s = s' := Except.ok.inj (hs.symm.trans hs')
  exact ⟨t, s, fault, ht, hs, hfault, hlocated fault hfault⟩

/-- The finding is on the slot, whose name has no number. -/
theorem not_keyFindings_on_unfit_slots : ∃ t s fault,
    DataTable.ofGrid slotGrid {} .standard = .ok t ∧ t.schema = .ok s ∧
    s.collections = .error fault ∧ ¬∃ m bad, keyFindings s.lint = [m] ∧
      s.IsFirst Field.HasUnfitKey bad ∧ m.column = bad.column ∧ m.name = bad.name := by
  obtain ⟨t, s, fault, ht, hs, hfault, hslot⟩ := exists_slots
  refine ⟨t, s, fault, ht, hs, hfault, ?_⟩
  rintro ⟨m, bad, hfindings, hbad, -, hname⟩
  rw [hfindings] at hslot
  have hm : m.name = "Slot" := by simpa using congrArg (List.map Prod.snd) hslot
  obtain ⟨wrong, hwrong⟩ := exists_keyFault_iff.mpr hbad.holds
  obtain ⟨stem, digits, hsuffix, -⟩ := keyFault?_eq_some.mp hwrong
  have hnone : Naming.numericSuffix? "Slot" = none := by decide +kernel
  rw [← hname, hm, hnone] at hsuffix
  cases hsuffix

end Proofs

end TypedTables
