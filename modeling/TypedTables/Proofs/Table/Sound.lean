import TypedTables.RowType.Template
import TypedTables.Proofs.Schema.Collection
import TypedTables.Proofs.Table.Faults

/-!
# Tables that could be made

All that later steps ask of a header has been checked when a table is made, wherever its rows are. What
can go wrong afterwards lies in the content, when rows are written, and in the numbers at the ends of
names, when code is emitted.
-/

namespace TypedTables.Proofs

variable {grid : Grid} {layout : DataTableLayout} {types : Registry} {t : DataTable} {s : Schema}

/-- The schema that a header declares. -/
structure IsSchemaOf (grid : Grid) (layout : DataTableLayout) (types : Registry) (s : Schema) :
    Prop where
  columns : ∀ c, (∃ f ∈ s.fields, f.column = c) ↔
    ∃ name, grid.cell layout.nameRow c = .ok name ∧ name ≠ "" ∧ '#' ∉ name.toList
  names : ∀ f ∈ s.fields, grid.cell layout.nameRow f.column = .ok f.name
  types : ∀ f ∈ s.fields, ∃ keyword, grid.cell layout.typeRow f.column = .ok keyword ∧
    types.resolve keyword = some f.type
  ascending : s.fields.Pairwise fun f g => f.column < g.column
  key : ∃ key, s.fields.filter (·.role == .id) = [key] ∧ key.column = layout.idColumn ∧
    key.type = .builtin .int32

/-! ### The header -/

lemma isCommentColumn_eq_false {sheet : Sheet} {c : Nat} : sheet.isCommentColumn c = .ok false ↔
    ∃ name, sheet.name c = .ok name ∧ name ≠ "" ∧ '#' ∉ name.toList := by
  unfold Sheet.isCommentColumn
  simp only [bind_eq_ok, pure_eq_ok, Bool.or_eq_false_iff, commentMark]
  simp

lemma lt_columnCount_of_cell {r c : Nat} {text : String} (h : grid.cell r c = .ok text) :
    c < grid.columnCount := by
  obtain ⟨cells, hcells, hcell⟩ := cell_eq_ok.mp h
  obtain ⟨hc, -⟩ := List.getElem?_eq_some_iff.mp hcell
  rwa [grid.rectangular cells (List.mem_of_getElem? hcells)] at hc

lemma filter_role_eq (hs : t.schema = .ok s) {key : Field} (hmem : key ∈ s.fields) (hrole : key.role = .id) :
    s.fields.filter (·.role == .id) = [key] := by
  have hsame : ∀ f ∈ s.fields.filter (·.role == .id), f.column = key.column := by
    intro f hf
    obtain ⟨hf, hid⟩ := List.mem_filter.mp hf
    rw [(isField_of_mem hs hf).key.mp (by simpa using hid), (isField_of_mem hs hmem).key.mp hrole]
  have hkey : key ∈ s.fields.filter (·.role == .id) := List.mem_filter.mpr ⟨hmem, by simp [hrole]⟩
  have hascending := (pairwise_columns hs).filter (·.role == .id)
  generalize s.fields.filter (·.role == .id) = keys at hsame hkey hascending
  cases hascending with
  | nil => cases hkey
  | @cons first rest hfirst _ =>
    -- a second one would be in a column behind the first, and both are in the column of the key
    have hrest : rest = [] := by
      by_contra hne
      obtain ⟨second, others, rfl⟩ := List.exists_cons_of_ne_nil hne
      have hlt := hfirst second List.mem_cons_self
      have hcolumn := hsame first List.mem_cons_self
      have hcolumn' := hsame second (List.mem_cons_of_mem _ List.mem_cons_self)
      omega
    subst hrest
    rw [List.mem_singleton.mp hkey]

section Header

variable (h : Accepted grid layout types t) (hs : t.schema = .ok s)

include h hs

lemma resolveColumn_of_mem {f : Field} (hf : f ∈ s.fields) :
    DataTable.resolveColumn grid layout types f.column = .ok (some f.type) := by
  have hfield := isField_of_mem hs hf
  have hlt := hfield.inGrid
  rw [h.grid_eq] at hlt
  rw [← hfield.type]
  exact resolveColumn_of_lt h hlt

lemma exists_field_iff (c : Nat) : (∃ f ∈ s.fields, f.column = c) ↔
    ∃ name, grid.cell layout.nameRow c = .ok name ∧ name ≠ "" ∧ '#' ∉ name.toList := by
  have hcomment : (DataTable.sheetOf grid layout).isCommentColumn c = .ok false ↔
      ∃ name, grid.cell layout.nameRow c = .ok name ∧ name ≠ "" ∧ '#' ∉ name.toList :=
    isCommentColumn_eq_false
  rw [← hcomment]
  constructor
  · rintro ⟨f, hf, rfl⟩
    exact (resolveColumn_eq_ok (resolveColumn_of_mem h hs hf)).1
  · intro hnamed
    obtain ⟨name, hname, -⟩ := hcomment.mp hnamed
    have hc := lt_columnCount_of_cell hname
    have hresolved := (resolveColumn_eq_ok (resolveColumn_of_lt h hc)).1
    have hsome := Except.ok.inj (hnamed.symm.trans hresolved)
    cases htype : (t.columnTypes[c]?).join with
    | none => simp [htype] at hsome
    | some type => exact exists_field hs (by rwa [h.grid_eq]) htype

theorem isSchemaOf_of_accepted : IsSchemaOf grid layout types s where
  columns := exists_field_iff h hs
  names f hf := by
    have hname := (isField_of_mem hs hf).name
    rwa [DataTable.sheet, h.grid_eq, h.layout_eq] at hname
  types f hf := ((resolveColumn_eq_ok (resolveColumn_of_mem h hs hf)).2 f.type rfl).2
  ascending := pairwise_columns hs
  key := by
    obtain ⟨key, -, hmem, hrole, hcolumn, htype⟩ := exists_key h hs
    exact ⟨key, filter_role_eq hs hmem hrole, hcolumn, htype⟩

end Header

/-! ### What can still fail -/

lemma exists_conversion_of_encodeRows (hs : t.schema = .ok s) {e : TableError}
    (h : t.encodeRows = .error e) : ∃ row column cause, e = .conversion row column cause := by
  obtain ⟨content, hcontent, hlt⟩ := exists_contentRows t.sheet
  obtain ⟨before, r, after, rfl, -, hrow⟩ := (encodeRows_eq_error hs hcontent).mp h
  obtain ⟨read, f, unread, hfields, -, hcell⟩ := mapM_eq_error.mp hrow
  have hf : f ∈ s.fields := by simp [hfields]
  have hr : r < t.grid.rowCount := hlt r (by simp)
  obtain ⟨text, htext⟩ := exists_cell hr (isField_of_mem hs hf).inGrid
  obtain ⟨cells, -, hget⟩ := cell_eq_ok.mp htext
  obtain ⟨_, -, column, cause, -, rfl⟩ := (encodeCell_eq_error htext hget).mp hcell
  exact ⟨r, column, cause, rfl⟩

lemma ofSchema_eq_error {space : String} {key : Field} (hkey : s.idField? = some key)
    {e : TableError} : RowType.ofSchema space s = .error e ↔
      ∃ fault, s.collections = .error fault ∧ e = .identifier (.key fault) := by
  unfold RowType.ofSchema
  simp only [bind_eq_error, mapError_eq_error, hkey]
  constructor
  · rintro (⟨fault, hfault, rfl⟩ | ⟨_, -, hreturn⟩)
    · exact ⟨fault, hfault, rfl⟩
    · cases hreturn
  · rintro ⟨fault, hfault, rfl⟩
    exact .inl ⟨fault, hfault, rfl⟩

section Emit

variable (h : Accepted grid layout types t) (hs : t.schema = .ok s)
variable (tableName template : String) (options : EmitOptions) (timestamp : String)

include h hs

lemma emit_eq_error {e : TableError} : t.emit tableName template options timestamp = .error e ↔
    ∃ fault, s.collections = .error fault ∧ e = .identifier (.key fault) := by
  obtain ⟨key, hkey, -⟩ := exists_key h hs
  obtain ⟨comment, hcomment⟩ : ∃ comment, t.comment t.layout.idColumn = .ok comment := by
    unfold DataTable.comment
    rw [h.grid_eq, h.layout_eq]
    exact exists_cell h.commentRow h.idColumn
  rw [← ofSchema_eq_error hkey]
  unfold DataTable.emit
  rw [hs]
  change (RowType.ofSchema options.space s >>= _) = _ ↔ _
  rw [bind_eq_error]
  constructor
  · rintro (hrowType | ⟨rowType, -, hreturn⟩)
    · exact hrowType
    · rw [hcomment] at hreturn
      cases hreturn
  · exact .inl

/-- Emitting code fails exactly if the name of a data column ends in a number that is no key. -/
lemma emit_fails_iff : (∃ e, t.emit tableName template options timestamp = .error e) ↔
    ∃ f ∈ s.dataFields, f.HasUnfitKey := by
  simp only [emit_eq_error h hs, ← exists_collections_eq_error_iff]
  constructor
  · rintro ⟨e, fault, hfault, -⟩
    exact ⟨fault, hfault⟩
  · rintro ⟨fault, hfault⟩
    exact ⟨_, fault, hfault, rfl⟩

end Emit

/-- A table that could be made has the schema that its header declares, and rows of content. Writing
them fails only where a cell cannot be read, and emitting code only for the names of its columns. -/
theorem sound_of_ofGrid (h : DataTable.ofGrid grid layout types = .ok t) :
    ∃ s content, t.schema = .ok s ∧ t.sheet.contentRows = .ok content ∧
      IsSchemaOf grid layout types s ∧
      (∀ e, t.encodeRows = .error e → ∃ row column cause, e = .conversion row column cause) ∧
      ∀ tableName template options timestamp,
        (∀ e, t.emit tableName template options timestamp = .error e →
          ∃ cause, e = .identifier cause) ∧
        ((∃ e, t.emit tableName template options timestamp = .error e) ↔
          ∃ f ∈ s.dataFields, f.HasUnfitKey) := by
  have haccepted := accepted_of_ofGrid h
  obtain ⟨s, hs⟩ := exists_schema haccepted
  obtain ⟨content, hcontent, -⟩ := exists_contentRows t.sheet
  refine ⟨s, content, hs, hcontent, isSchemaOf_of_accepted haccepted hs,
    fun e => exists_conversion_of_encodeRows hs, ?_⟩
  intro tableName template options timestamp
  refine ⟨fun e he => ?_, emit_fails_iff haccepted hs tableName template options timestamp⟩
  obtain ⟨fault, -, rfl⟩ :=
    (emit_eq_error haccepted hs tableName template options timestamp).mp he
  exact ⟨_, rfl⟩

/-- The comments are the first row of content, whose number is too large for its column, and the number
in the name of this column is too large for a key. -/
def rewardGrid : Grid where
  rows := [["", "Rewards", ""], ["", "Id", "Reward99999999999"], ["", "int", "byte"], ["", "1", "300"]]
  rectangular := by decide

theorem sound_of_ofGrid_rewards : ∃ t,
    DataTable.ofGrid rewardGrid { contentStartRow := 3 } .standard = .ok t ∧
    t.encodeRows.mapError TableError.message = .error ("Conversion at row 3, column 2: " ++
      "'300' is not a valid u8: number too large to fit in target type") ∧
    (t.emit "Rewards" standardTemplate {} "today").mapError TableError.message =
      .error "Identifier: column Reward99999999999: suffix '99999999999' does not fit in i32" ∧
    ∃ s content, t.schema = .ok s ∧ t.sheet.contentRows = .ok content ∧
      IsSchemaOf rewardGrid { contentStartRow := 3 } .standard s ∧
      (∀ e, t.encodeRows = .error e → ∃ row column cause, e = .conversion row column cause) ∧
      ∀ tableName template options timestamp,
        (∀ e, t.emit tableName template options timestamp = .error e →
          ∃ cause, e = .identifier cause) ∧
        ((∃ e, t.emit tableName template options timestamp = .error e) ↔
          ∃ f ∈ s.dataFields, f.HasUnfitKey) := by
  have hfound : (DataTable.ofGrid rewardGrid { contentStartRow := 3 } .standard).toOption.map (fun t =>
      (t.encodeRows.mapError TableError.message,
        (t.emit "Rewards" standardTemplate {} "today").mapError TableError.message)) =
      some (.error ("Conversion at row 3, column 2: " ++
          "'300' is not a valid u8: number too large to fit in target type"),
        .error "Identifier: column Reward99999999999: suffix '99999999999' does not fit in i32") := by
    decide +kernel
  obtain ⟨t, ht, hmessages⟩ := Option.map_eq_some_iff.mp hfound
  obtain ⟨hencode, hemit⟩ := Prod.mk.inj hmessages
  have hmade := toOption_eq_some.mp ht
  exact ⟨t, hmade, hencode, hemit, sound_of_ofGrid hmade⟩

end TypedTables.Proofs
