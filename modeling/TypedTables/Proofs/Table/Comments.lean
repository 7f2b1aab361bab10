import TypedTables.Proofs.Table.Dictionary

/-!
# Comments

Nothing that is emitted for a table depends on its comments. Two grids that differ in the cells of
comment columns and of comment rows only are both accepted or both refused, and what is emitted for
them is the same, also where it is an error.
-/

namespace TypedTables

/-- The rows of a header besides the names. -/
def DataTableLayout.headerRows (layout : DataTableLayout) : List Nat :=
  layout.typeRow :: layout.commentRow :: layout.languageKeywordRow.toList

/-- What is emitted for a table, or said of it. -/
def DataTable.output (t : DataTable) :
    Except TableError Schema × Except TableError (List Finding) × Except TableError (List UInt8) :=
  (t.schema, t.schema.map Schema.lint, t.encodeRows)

/-- Two sheets that differ in comments at most. They have the same names and the same comment rows;
the cells of other columns are the same in the rows of the header and in the rows of content that are
no comments. All other cells may differ. -/
structure Sheet.SameData (header : List Nat) (s s' : Sheet) : Prop where
  places : s' = { s with grid := s'.grid }
  rowCount : s'.rowCount = s.rowCount
  columnCount : s'.columnCount = s.columnCount
  name : ∀ c, s'.name c = s.name c
  isCommentRow : ∀ r, s'.isCommentRow r = s.isCommentRow r
  header : ∀ r ∈ header, ∀ c, s.isCommentColumn c = .ok false → s'.value r c = s.value r c
  content : ∀ r, s.contentStart ≤ r → s.isCommentRow r = .ok false →
    ∀ c, s.isCommentColumn c = .ok false → s'.value r c = s.value r c

namespace Proofs

open Sheet (SameData)

lemma mem_contentRowsFrom {s : Sheet} {r left : Nat} {content : List Nat}
    (h : s.contentRowsFrom r left = .ok content) (x : Nat) :
    x ∈ content ↔ r ≤ x ∧ x < r + left ∧ s.isCommentRow x = .ok false := by
  induction left generalizing r content with
  | zero =>
    obtain rfl := Except.ok.inj h
    refine iff_of_false List.not_mem_nil ?_
    omega
  | succ left ih =>
    obtain ⟨comment, hcomment, h⟩ := bind_eq_ok.mp h
    obtain ⟨rest, hrest, h⟩ := bind_eq_ok.mp h
    obtain rfl := pure_eq_ok.mp h
    have hbehind := ih hrest
    by_cases hx : x = r
    · subst hx
      cases comment with
      | true => simp [hbehind, hcomment]
      | false => simp [hcomment]
    · have hmem : x ∈ (if comment = true then rest else r :: rest) ↔ x ∈ rest := by
        cases comment <;> simp [hx]
      rw [hmem, hbehind]
      constructor
      · rintro ⟨hle, hlt, hrow⟩
        exact ⟨by omega, by omega, hrow⟩
      · rintro ⟨hle, hlt, hrow⟩
        exact ⟨by omega, by omega, hrow⟩

lemma mem_contentRows {s : Sheet} {content : List Nat} (h : s.contentRows = .ok content) (r : Nat) :
    r ∈ content ↔ s.contentStart ≤ r ∧ r < s.rowCount ∧ s.isCommentRow r = .ok false := by
  rw [mem_contentRowsFrom h]
  constructor
  · rintro ⟨hle, hlt, hrow⟩
    exact ⟨hle, by omega, hrow⟩
  · rintro ⟨hle, hlt, hrow⟩
    exact ⟨hle, by omega, hrow⟩

section Sheets

variable {header : List Nat} {s s' : Sheet} (h : SameData header s s')

include h

lemma isCommentColumn_congr (c : Nat) : s'.isCommentColumn c = s.isCommentColumn c := by
  unfold Sheet.isCommentColumn
  rw [h.name]

lemma checkColumn_congr (c : Nat) : s'.checkColumn c = s.checkColumn c := by
  unfold Sheet.checkColumn
  rw [h.columnCount]

lemma isIdColumn_congr (c : Nat) : s'.isIdColumn c = s.isIdColumn c := by
  have hid : s'.idColumn = s.idColumn := by rw [h.places]
  unfold Sheet.isIdColumn
  rw [checkColumn_congr h, hid]

lemma contentRows_congr : s'.contentRows = s.contentRows := by
  have hstart : s'.contentStart = s.contentStart := by rw [h.places]
  have hfrom : ∀ r left, s'.contentRowsFrom r left = s.contentRowsFrom r left := by
    intro r left
    induction left generalizing r with
    | zero => rfl
    | succ left ih => rw [Sheet.contentRowsFrom, Sheet.contentRowsFrom, h.isCommentRow, ih]
  unfold Sheet.contentRows
  rw [hstart, h.rowCount, hfrom]

lemma value_congr {content : List Nat} (hcontent : s.contentRows = .ok content) {r c : Nat}
    (hr : r ∈ content) (hc : s.isCommentColumn c = .ok false) : s'.value r c = s.value r c := by
  obtain ⟨hstart, -, hrow⟩ := (mem_contentRows hcontent r).mp hr
  exact h.content r hstart hrow c hc

end Sheets

/-! ### Data tables -/

section DataTables

variable {grid grid' : Grid} {layout : DataTableLayout}
  (h : SameData layout.headerRows (DataTable.sheetOf grid layout) (DataTable.sheetOf grid' layout))

include h

lemma resolveColumn_congr (types : Registry) :
    DataTable.resolveColumn grid' layout types = DataTable.resolveColumn grid layout types := by
  funext c
  unfold DataTable.resolveColumn
  dsimp only
  rw [isCommentColumn_congr h, h.name]
  refine bind_congr_ok fun isComment hcomment => ?_
  cases isComment with
  | true => rfl
  | false =>
    have hkeyword : grid'.cell layout.typeRow c = grid.cell layout.typeRow c :=
      h.header _ List.mem_cons_self c hcomment
    rw [hkeyword]

/-- The same is made of both grids, but for the grid itself. -/
lemma ofGrid_congr (types : Registry) : DataTable.ofGrid grid' layout types =
    (fun t => { t with grid := grid' }) <$> DataTable.ofGrid grid layout types := by
  have hrows : grid'.rowCount = grid.rowCount := h.rowCount
  have hcolumns : grid'.columnCount = grid.columnCount := h.columnCount
  unfold DataTable.ofGrid Grid.checkHeaderRow Grid.checkContentStart
  rw [hrows, hcolumns, isCommentColumn_congr h, resolveColumn_congr h]
  -- the same checks on both sides: the grid itself appears in the last step only
  cases layout.languageKeywordRow with
  | none => simp only [map_bind, apply_ite (Functor.map _), map_pure]
  | some row => simp only [map_bind, apply_ite (Functor.map _), map_pure]

end DataTables

lemma isCommentColumn_of_type {grid : Grid} {layout : DataTableLayout} {types : Registry}
    {t : DataTable} (hgrid : Accepted grid layout types t) (c : Nat) (type : ColumnType)
    (htype : (t.columnTypes[c]?).join = some type) : t.sheet.isCommentColumn c = .ok false := by
  obtain ⟨hc, -⟩ := List.getElem?_eq_some_iff.mp (Option.join_eq_some_iff.mp htype)
  have hlength := hgrid.columnTypes.length_eq
  rw [List.length_range] at hlength
  obtain ⟨hcomment, -⟩ := resolveColumn_eq_ok (resolveColumn_of_lt hgrid (c := c) (by omega))
  rw [htype] at hcomment
  rw [DataTable.sheet, hgrid.grid_eq, hgrid.layout_eq]
  exact hcomment

section Tables

variable {t : DataTable} {grid' : Grid}
  (h : SameData t.layout.headerRows t.sheet (DataTable.sheetOf grid' t.layout))
  (htypes : ∀ c type, (t.columnTypes[c]?).join = some type → t.sheet.isCommentColumn c = .ok false)

include h

lemma declaredType_congr (c : Nat) :
    DataTable.declaredType { t with grid := grid' } c = t.declaredType c := by
  have hcheck : (DataTable.sheetOf grid' t.layout).checkColumn c = t.sheet.checkColumn c :=
    checkColumn_congr h c
  unfold DataTable.declaredType
  exact congrArg (· >>= _) hcheck

lemma languageKeyword_congr {c : Nat} {type : ColumnType}
    (htype : t.declaredType c = .ok (some type)) (hc : t.sheet.isCommentColumn c = .ok false) :
    DataTable.languageKeyword { t with grid := grid' } c = t.languageKeyword c := by
  unfold DataTable.languageKeyword
  rw [declaredType_congr h, htype]
  cases hrow : t.layout.languageKeywordRow with
  | none => rfl
  | some row =>
    have hcell : grid'.cell row c = t.grid.cell row c :=
      h.header row (by simp [DataTableLayout.headerRows, hrow]) c hc
    dsimp only
    rw [hcell]
    rfl

include htypes

lemma field?_congr (c : Nat) : DataTable.field? { t with grid := grid' } c = t.field? c := by
  unfold DataTable.field?
  rw [declaredType_congr h]
  refine bind_congr_ok fun type htype => ?_
  cases type with
  | none => rfl
  | some type =>
    have hc := htypes c type (declaredType_eq_ok.mp htype).2
    have hcomment : grid'.cell t.layout.commentRow c = t.grid.cell t.layout.commentRow c :=
      h.header _ (by simp [DataTableLayout.headerRows]) c hc
    have hid : (DataTable.sheetOf grid' t.layout).isIdColumn c = t.sheet.isIdColumn c :=
      isIdColumn_congr h c
    have hname : (DataTable.sheetOf grid' t.layout).name c = t.sheet.name c := h.name c
    dsimp only [DataTable.sheet, DataTable.comment] at *
    rw [hid, hname, languageKeyword_congr h htype hc, hcomment]

lemma schema_congr : DataTable.schema { t with grid := grid' } = t.schema := by
  have hcolumns : grid'.columnCount = t.grid.columnCount := h.columnCount
  unfold DataTable.schema
  dsimp only
  rw [hcolumns, funext (field?_congr h htypes)]

lemma encodeRows_congr : DataTable.encodeRows { t with grid := grid' } = t.encodeRows := by
  unfold DataTable.encodeRows
  rw [schema_congr h htypes]
  refine bind_congr_ok fun s hs => ?_
  have hrows : (DataTable.sheetOf grid' t.layout).contentRows = t.sheet.contentRows :=
    contentRows_congr h
  dsimp only [DataTable.sheet] at *
  rw [hrows]
  refine bind_congr_ok fun content hcontent => ?_
  -- a column with a field has a type, so it is no comment, and a row of content is none either
  have hrecords : ∀ r ∈ content, ∀ f ∈ s.fields,
      DataTable.encodeCell { t with grid := grid' } r f = t.encodeCell r f := by
    intro r hr f hf
    have hc := htypes f.column f.type (isField_of_mem hs hf).type
    unfold DataTable.encodeCell
    exact congrArg (· >>= _) (value_congr h hcontent hr hc)
  rw [mapM_congr fun r hr => by rw [mapM_congr (hrecords r hr)]]

end Tables

/-! ### Dictionaries -/

section Dictionaries

variable {grid grid' : Grid} {layout : DictionaryLayout}
  (h : SameData [] (Dictionary.sheet ⟨grid, layout⟩) (Dictionary.sheet ⟨grid', layout⟩))

include h

lemma ofGrid_dictionary_congr : Dictionary.ofGrid grid' layout =
    (fun _ => ⟨grid', layout⟩) <$> Dictionary.ofGrid grid layout := by
  have hrows : grid'.rowCount = grid.rowCount := h.rowCount
  unfold Dictionary.ofGrid Grid.checkHeaderRow Grid.checkContentStart
  rw [hrows]
  simp only [map_bind, map_pure]

lemma columns_congr : Dictionary.columns ⟨grid', layout⟩ = Dictionary.columns ⟨grid, layout⟩ := by
  have hcolumns : grid'.columnCount = grid.columnCount := h.columnCount
  unfold Dictionary.columns
  dsimp only
  rw [hcolumns, funext (isCommentColumn_congr h)]

lemma encodeRows_dictionary_congr :
    Dictionary.encodeRows ⟨grid', layout⟩ = Dictionary.encodeRows ⟨grid, layout⟩ := by
  unfold Dictionary.encodeRows
  rw [columns_congr h, contentRows_congr h]
  refine bind_congr_ok fun columns hcolumns => bind_congr_ok fun content hcontent => ?_
  have hcells : ∀ r ∈ content, ∀ c ∈ columns, (Dictionary.sheet ⟨grid', layout⟩).value r c =
      (Dictionary.sheet ⟨grid, layout⟩).value r c := by
    intro r hr c hc
    obtain ⟨isComment, hcomment, hkeep⟩ := bind_eq_ok.mp (of_mem_filterM hcolumns c hc).2
    obtain rfl : isComment = false := by simpa using hkeep
    exact value_congr h hcontent hr hcomment
  rw [mapM_congr fun r hr => by rw [mapM_congr fun c hc => by rw [hcells r hr c hc]]]

end Dictionaries

/-- Comments have no influence on a data table or a dictionary: two grids that differ in comments at
most are refused with one error, or accepted with the same schema, the same findings and the same
bytes, or the same error instead of these. -/
theorem output_eq_of_sameData (grid grid' : Grid) :
    (∀ layout types,
      SameData layout.headerRows (DataTable.sheetOf grid layout) (DataTable.sheetOf grid' layout) →
        DataTable.output <$> DataTable.ofGrid grid' layout types =
          DataTable.output <$> DataTable.ofGrid grid layout types) ∧
    (∀ layout : DictionaryLayout,
      SameData [] (Dictionary.sheet ⟨grid, layout⟩) (Dictionary.sheet ⟨grid', layout⟩) →
        Dictionary.encodeRows <$> Dictionary.ofGrid grid' layout =
          Dictionary.encodeRows <$> Dictionary.ofGrid grid layout) := by
  constructor
  · intro layout types h
    rw [ofGrid_congr h types]
    cases ht : DataTable.ofGrid grid layout types with
    | error e => rfl
    | ok t =>
      have hgrid := accepted_of_ofGrid ht
      have htypes := isCommentColumn_of_type hgrid
      obtain rfl := hgrid.grid_eq
      obtain rfl := hgrid.layout_eq
      have houtput : DataTable.output { t with grid := grid' } = t.output := by
        unfold DataTable.output
        rw [schema_congr h htypes, encodeRows_congr h htypes]
      exact congrArg Except.ok houtput
  · intro layout h
    rw [ofGrid_dictionary_congr h]
    cases hd : Dictionary.ofGrid grid layout with
    | error e => rfl
    | ok d =>
      obtain ⟨rfl, -⟩ := ofGrid_eq_ok hd
      exact congrArg Except.ok (encodeRows_dictionary_congr h)

/-- A table with a column and a row of comments. -/
def plainGrid : Grid where
  rows := [["", ""], ["Id", "#Note"], ["int", ""], ["key", ""], ["1", "first"], ["#2", "second"]]
  rectangular := by decide

/-- The same table with other comments. -/
def notedGrid : Grid where
  rows := [["", "!"], ["Id", "#Note"], ["int", "matrix"], ["key", "for us"], ["1", "last"], ["#", ""]]
  rectangular := by decide

example : (DataTable.ofGrid notedGrid { idColumn := 0 } .standard).toOption.bind
    (fun t => t.encodeRows.toOption) = some [1] := by
  decide +kernel

lemma sameData_noted (idColumn : Option Nat) {header : List Nat} (hheader : header ⊆ [2, 3]) :
    SameData header ⟨plainGrid, 1, 4, idColumn⟩ ⟨notedGrid, 1, 4, idColumn⟩ := by
  have hcolumn : ∀ c, (⟨plainGrid, 1, 4, idColumn⟩ : Sheet).isCommentColumn c = .ok false → c = 0 := by
    intro c hc
    match c with
    | 0 => rfl
    | 1 => cases hc
    | c + 2 => cases hc
  refine ⟨rfl, rfl, rfl, fun _ => rfl, ?_, ?_, ?_⟩
  · intro r
    match r with
    | 0 | 1 | 2 | 3 | 4 | 5 => rfl
    | r + 6 => rfl
  · intro r hr c hc
    obtain rfl := hcolumn c hc
    rcases List.mem_cons.mp (hheader hr) with rfl | hr
    · rfl
    · obtain rfl := List.mem_singleton.mp hr
      rfl
  · intro r hstart hrow c hc
    obtain rfl := hcolumn c hc
    match r with
    | 4 => rfl
    | 5 => cases hrow
    | r + 6 => cases hrow

theorem output_eq_of_sameData_noted :
    DataTable.output <$> DataTable.ofGrid notedGrid { idColumn := 0 } .standard =
      DataTable.output <$> DataTable.ofGrid plainGrid { idColumn := 0 } .standard ∧
    Dictionary.encodeRows <$> Dictionary.ofGrid notedGrid ⟨1, 4⟩ =
      Dictionary.encodeRows <$> Dictionary.ofGrid plainGrid ⟨1, 4⟩ := by
  obtain ⟨htable, hdictionary⟩ := output_eq_of_sameData plainGrid notedGrid
  have hheader : DataTableLayout.headerRows { idColumn := 0 } ⊆ [2, 3] := by decide
  exact ⟨htable { idColumn := 0 } .standard (sameData_noted (some 0) hheader),
    hdictionary ⟨1, 4⟩ (sameData_noted none (List.nil_subset _))⟩

end Proofs

end TypedTables
