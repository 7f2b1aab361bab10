import TypedTables.Table.Artifact
import TypedTables.Proofs.Result

/-!
# Fields of an accepted table

What a table that has been made says about its schema: the fields are the columns that are no
comments, from left to right, and exactly the one in the id column is the key, a 32-bit integer.
-/

namespace TypedTables.Proofs

variable {t : DataTable} {s : Schema}

lemma cell_eq_ok {g : Grid} {r c : Nat} {text : String} :
    g.cell r c = .ok text ↔ ∃ cells, g.rows[r]? = some cells ∧ cells[c]? = some text := by
  unfold Grid.cell Grid.row
  cases hrow : g.rows[r]? with
  | none => simp [bind, Except.bind]
  | some cells =>
    cases hcell : cells[c]? with
    | none => simp [hcell, bind, Except.bind, throw, throwThe, MonadExceptOf.throw]
    | some found => simp [hcell, bind, Except.bind, pure, Except.pure]

lemma exists_cell {g : Grid} {r c : Nat} (hr : r < g.rowCount) (hc : c < g.columnCount) :
    ∃ text, g.cell r c = .ok text := by
  have hwidth : g.rows[r].length = g.columnCount := g.rectangular _ (List.getElem_mem hr)
  exact ⟨g.rows[r][c], cell_eq_ok.mpr ⟨g.rows[r], List.getElem?_eq_getElem hr,
    List.getElem?_eq_getElem (by omega)⟩⟩

/-- A field is what its column says. -/
structure IsField (t : DataTable) (f : Field) : Prop where
  inGrid : f.column < t.grid.columnCount
  type : (t.columnTypes[f.column]?).join = some f.type
  name : t.sheet.name f.column = .ok f.name
  key : f.role = .id ↔ f.column = t.layout.idColumn
  keyword : t.languageKeyword f.column = .ok f.keyword
  comment : t.comment f.column = .ok f.comment

lemma checkColumn_eq_ok {sheet : Sheet} {c : Nat} {u : Unit} :
    sheet.checkColumn c = .ok u ↔ c < sheet.columnCount := by
  unfold Sheet.checkColumn
  by_cases h : c < sheet.columnCount <;> simp [h]

lemma declaredType_eq_ok {c : Nat} {type : Option ColumnType} :
    t.declaredType c = .ok type ↔ c < t.grid.columnCount ∧ (t.columnTypes[c]?).join = type := by
  unfold DataTable.declaredType
  simp only [bind_eq_ok, checkColumn_eq_ok, pure_eq_ok, exists_const]
  rfl

lemma isIdColumn_eq_ok {c : Nat} {b : Bool} :
    t.sheet.isIdColumn c = .ok b ↔
      c < t.grid.columnCount ∧ (some t.layout.idColumn == some c) = b := by
  unfold Sheet.isIdColumn
  simp only [bind_eq_ok, checkColumn_eq_ok, pure_eq_ok, exists_const]
  rfl

lemma field?_eq_ok {c : Nat} {f? : Option Field} (h : t.field? c = .ok f?) :
    (t.columnTypes[c]?).join = none ∧ f? = none ∨
      ∃ f, f? = some f ∧ f.column = c ∧ IsField t f := by
  unfold DataTable.field? at h
  obtain ⟨type, htype, h⟩ := bind_eq_ok.mp h
  obtain ⟨hc, hjoin⟩ := declaredType_eq_ok.mp htype
  cases type with
  | none => exact .inl ⟨hjoin, (pure_eq_ok.mp h).symm⟩
  | some type =>
    right
    obtain ⟨isId, hid, h⟩ := bind_eq_ok.mp h
    obtain ⟨name, hname, h⟩ := bind_eq_ok.mp h
    obtain ⟨keyword, hkeyword, h⟩ := bind_eq_ok.mp h
    obtain ⟨comment, hcomment, h⟩ := bind_eq_ok.mp h
    obtain rfl := pure_eq_ok.mp h
    obtain ⟨-, rfl⟩ := isIdColumn_eq_ok.mp hid
    refine ⟨_, rfl, rfl, hc, hjoin, hname, ?_, hkeyword, hcomment⟩
    by_cases hkey : c = t.layout.idColumn
    · simp [hkey]
    · simp [hkey, Ne.symm hkey]

/-- The fields of a schema, column by column. -/
lemma schema_eq_ok (h : t.schema = .ok s) : s.columnCount = t.grid.columnCount ∧
    ∃ found, List.Forall₂ (fun c f? => t.field? c = .ok f?) (List.range t.grid.columnCount) found ∧
      s.fields = found.filterMap id := by
  unfold DataTable.schema at h
  obtain ⟨found, hfound, h⟩ := bind_eq_ok.mp h
  obtain rfl := pure_eq_ok.mp h
  exact ⟨rfl, found, mapM_eq_ok.mp hfound, rfl⟩

lemma isField_of_mem (h : t.schema = .ok s) {f : Field} (hf : f ∈ s.fields) : IsField t f := by
  obtain ⟨-, found, hfound, hfields⟩ := schema_eq_ok h
  rw [hfields] at hf
  obtain ⟨f?, hf?, rfl⟩ : ∃ f? ∈ found, f? = some f := by simpa using hf
  obtain ⟨c, -, hc⟩ := exists_of_mem_right hfound hf?
  rcases field?_eq_ok hc with ⟨-, hnone⟩ | ⟨f', hf', -, hfield⟩
  · simp at hnone
  · obtain rfl : f = f' := by simpa using hf'
    exact hfield

lemma exists_field (h : t.schema = .ok s) {c : Nat} {type : ColumnType}
    (hc : c < t.grid.columnCount) (htype : (t.columnTypes[c]?).join = some type) :
    ∃ f ∈ s.fields, f.column = c := by
  obtain ⟨-, found, hfound, hfields⟩ := schema_eq_ok h
  obtain ⟨f?, hf?, hc?⟩ := exists_of_mem_left hfound (List.mem_range.mpr hc)
  rcases field?_eq_ok hc? with ⟨hnone, -⟩ | ⟨f, rfl, hcolumn, -⟩
  · simp [htype] at hnone
  · exact ⟨f, by rw [hfields]; simpa using hf?, hcolumn⟩

lemma columns_sublist (h : t.schema = .ok s) :
    (s.fields.map Field.column).Sublist (List.range t.grid.columnCount) := by
  obtain ⟨-, found, hfound, hfields⟩ := schema_eq_ok h
  rw [hfields]
  generalize List.range t.grid.columnCount = columns at hfound
  clear hfields
  induction hfound with
  | nil => exact List.Sublist.refl []
  | @cons c f? rest found hc _ ih =>
    rcases field?_eq_ok hc with ⟨-, rfl⟩ | ⟨f, rfl, rfl, -⟩
    · exact ih.cons c
    · exact ih.cons_cons f.column

lemma pairwise_columns (h : t.schema = .ok s) :
    s.fields.Pairwise fun f g => f.column < g.column := by
  have hsorted := List.pairwise_lt_range.sublist (columns_sublist h)
  exact List.pairwise_map.mp hsorted

lemma field_eq_of_column_eq (h : t.schema = .ok s) {f g : Field} (hf : f ∈ s.fields)
    (hg : g ∈ s.fields) (hcolumn : f.column = g.column) : f = g := by
  have hnodup : (s.fields.map Field.column).Nodup := List.nodup_range.sublist (columns_sublist h)
  exact List.inj_on_of_nodup_map hnodup hf hg hcolumn

/-! ### Tables made from grids -/

/-- What is known of a table that could be made. -/
structure Accepted (grid : Grid) (layout : DataTableLayout) (types : Registry) (t : DataTable) :
    Prop where
  grid_eq : t.grid = grid
  layout_eq : t.layout = layout
  nameRow : layout.nameRow < grid.rowCount
  typeRow : layout.typeRow < grid.rowCount
  commentRow : layout.commentRow < grid.rowCount
  keywordRow : ∀ row, layout.languageKeywordRow = some row → row < grid.rowCount
  idColumn : layout.idColumn < grid.columnCount
  idNamed : (DataTable.sheetOf grid layout).isCommentColumn layout.idColumn = .ok false
  columnTypes : List.Forall₂ (fun c type => DataTable.resolveColumn grid layout types c = .ok type)
    (List.range grid.columnCount) t.columnTypes

variable {grid : Grid} {layout : DataTableLayout} {types : Registry}

lemma checkHeaderRow_eq_ok {header : HeaderRow} {r : Nat} {u : Unit} :
    grid.checkHeaderRow header r = .ok u ↔ r < grid.rowCount := by
  unfold Grid.checkHeaderRow
  by_cases h : r < grid.rowCount <;> simp [h]

lemma accepted_of_ofGrid (h : DataTable.ofGrid grid layout types = .ok t) :
    Accepted grid layout types t := by
  unfold DataTable.ofGrid at h
  obtain ⟨_, hname, h⟩ := bind_eq_ok.mp h
  obtain ⟨_, htype, h⟩ := bind_eq_ok.mp h
  obtain ⟨_, hcomment, h⟩ := bind_eq_ok.mp h
  simp only [checkHeaderRow_eq_ok] at hname htype hcomment
  cases hrow : layout.languageKeywordRow with
  | none =>
    simp only [hrow] at h
    obtain ⟨-, -, h⟩ := bind_eq_ok.mp h
    obtain ⟨hid, h⟩ := guard_eq_ok.mp h
    obtain ⟨isComment, hnamed, h⟩ := bind_eq_ok.mp h
    obtain ⟨hfalse, h⟩ := guard_eq_ok.mp h
    obtain ⟨columnTypes, hcolumns, h⟩ := bind_eq_ok.mp h
    obtain rfl := pure_eq_ok.mp h
    obtain rfl : isComment = false := by simpa using hfalse
    exact ⟨rfl, rfl, hname, htype, hcomment, by simp [hrow], not_le.mp hid, hnamed,
      mapM_eq_ok.mp hcolumns⟩
  | some row =>
    simp only [hrow] at h
    obtain ⟨_, hkeyword, h⟩ := bind_eq_ok.mp h
    obtain ⟨-, -, h⟩ := bind_eq_ok.mp h
    obtain ⟨hid, h⟩ := guard_eq_ok.mp h
    obtain ⟨isComment, hnamed, h⟩ := bind_eq_ok.mp h
    obtain ⟨hfalse, h⟩ := guard_eq_ok.mp h
    obtain ⟨columnTypes, hcolumns, h⟩ := bind_eq_ok.mp h
    obtain rfl := pure_eq_ok.mp h
    obtain rfl : isComment = false := by simpa using hfalse
    have hkeywordRow := checkHeaderRow_eq_ok.mp hkeyword
    exact ⟨rfl, rfl, hname, htype, hcomment, by simpa [hrow] using hkeywordRow, not_le.mp hid,
      hnamed, mapM_eq_ok.mp hcolumns⟩

/-- A column has a type exactly if it is no comment, and then the one that its keyword names. -/
lemma resolveColumn_eq_ok {c : Nat} {type? : Option ColumnType}
    (h : DataTable.resolveColumn grid layout types c = .ok type?) :
    (DataTable.sheetOf grid layout).isCommentColumn c = .ok type?.isNone ∧
    ∀ type, type? = some type → (c = layout.idColumn → type = .builtin .int32) ∧
      ∃ keyword, grid.cell layout.typeRow c = .ok keyword ∧ types.resolve keyword = some type := by
  unfold DataTable.resolveColumn at h
  obtain ⟨isComment, hcomment, h⟩ := bind_eq_ok.mp h
  cases isComment with
  | true =>
    obtain rfl := pure_eq_ok.mp h
    exact ⟨hcomment, fun type htype => by cases htype⟩
  | false =>
    simp only [Bool.false_eq_true, if_false] at h
    obtain ⟨keyword, hkeyword, h⟩ := bind_eq_ok.mp h
    cases hresolve : types.resolve keyword with
    | none =>
      simp only [hresolve] at h
      obtain ⟨name, -, hthrow⟩ := bind_eq_ok.mp h
      exact absurd hthrow throw_ne_ok
    | some type =>
      simp only [hresolve] at h
      by_cases hkey : c = layout.idColumn ∧ type ≠ .builtin .int32
      · rw [if_pos hkey] at h
        exact absurd h throw_ne_ok
      · rw [if_neg hkey] at h
        obtain rfl := pure_eq_ok.mp h
        refine ⟨hcomment, ?_⟩
        rintro type' htype
        obtain rfl := Option.some.inj htype
        exact ⟨fun hc => not_not.mp fun hne => hkey ⟨hc, hne⟩, keyword, hkeyword, hresolve⟩

lemma resolveColumn_of_lt (h : Accepted grid layout types t) {c : Nat} (hc : c < grid.columnCount) :
    DataTable.resolveColumn grid layout types c = .ok (t.columnTypes[c]?).join := by
  have hlength := h.columnTypes.length_eq
  rw [List.length_range] at hlength
  have hresolve := h.columnTypes.get (i := c) (by simpa using hc) (by omega)
  rw [List.getElem?_eq_getElem (by omega), Option.join_some]
  simpa using hresolve

/-- The key has the type of 32-bit integers. -/
lemma idColumn_type (h : Accepted grid layout types t) :
    (t.columnTypes[layout.idColumn]?).join = some (.builtin .int32) := by
  obtain ⟨hcomment, hsome⟩ := resolveColumn_eq_ok (resolveColumn_of_lt h h.idColumn)
  have hnamed := Except.ok.inj (h.idNamed.symm.trans hcomment)
  cases htype : (t.columnTypes[layout.idColumn]?).join with
  | none => simp [htype] at hnamed
  | some type => rw [(hsome type htype).1 rfl]

/-- The key of an accepted table is the field in its id column. -/
theorem exists_key (hgrid : Accepted grid layout types t) (h : t.schema = .ok s) :
    ∃ key, s.idField? = some key ∧ key ∈ s.fields ∧ key.role = .id ∧
      key.column = layout.idColumn ∧ key.type = .builtin .int32 := by
  have htype := idColumn_type hgrid
  obtain ⟨key, hmem, hcolumn⟩ := exists_field h (by rw [hgrid.grid_eq]; exact hgrid.idColumn) htype
  have hkey := isField_of_mem h hmem
  have hrole : key.role = .id := hkey.key.mpr (by rw [hcolumn, hgrid.layout_eq])
  have hint : key.type = .builtin .int32 := by
    have hjoin := hkey.type
    rw [hcolumn, htype] at hjoin
    exact (Option.some.inj hjoin).symm
  obtain ⟨found, hfound⟩ : ∃ found, s.idField? = some found := by
    rw [← Option.isSome_iff_exists, Schema.idField?, List.find?_isSome]
    exact ⟨key, hmem, by simp [hrole]⟩
  have hfoundMem := List.mem_of_find?_eq_some hfound
  have hfoundRole : found.role = .id := by simpa using List.find?_some hfound
  have hfoundColumn := (isField_of_mem h hfoundMem).key.mp hfoundRole
  have heq : found = key :=
    field_eq_of_column_eq h hfoundMem hmem (by rw [hfoundColumn, hcolumn, hgrid.layout_eq])
  exact ⟨key, by rw [hfound, heq], hmem, hrole, hcolumn, hint⟩

lemma exists_header_cell (h : Accepted grid layout types t) {r c : Nat} (hr : r < grid.rowCount)
    (hc : c < t.grid.columnCount) : ∃ text, t.grid.cell r c = .ok text := by
  rw [← h.grid_eq] at hr
  exact exists_cell hr hc

lemma exists_languageKeyword (h : Accepted grid layout types t) {c : Nat}
    (hc : c < t.grid.columnCount) : ∃ keyword, t.languageKeyword c = .ok keyword := by
  have hdeclared := declaredType_eq_ok.mpr ⟨hc, rfl⟩
  obtain ⟨typeName, htypeName⟩ := exists_header_cell h h.typeRow hc
  rw [← h.layout_eq] at htypeName
  -- what happens once the cell of the keyword row, if there is one, has been read
  have hrest : ∀ (chosen : String) (ofType : Option ColumnType → Except TableError String),
      ofType none = t.typeName c → (∀ type, ofType (some type) = .ok type.typeText) →
        ∃ keyword, (if (!chosen.isEmpty) = true then pure chosen
          else t.declaredType c >>= ofType) = .ok keyword := by
    intro chosen ofType hnone hsome
    by_cases hempty : (!chosen.isEmpty) = true
    · exact ⟨chosen, by rw [if_pos hempty]; rfl⟩
    · rw [if_neg hempty, hdeclared]
      cases htype : (t.columnTypes[c]?).join with
      | none => exact ⟨typeName, bind_eq_ok.mpr ⟨none, rfl, hnone.trans htypeName⟩⟩
      | some type => exact ⟨type.typeText, bind_eq_ok.mpr ⟨some type, rfl, hsome type⟩⟩
  unfold DataTable.languageKeyword
  cases hrow : t.layout.languageKeywordRow with
  | none => exact hrest "" _ rfl fun _ => rfl
  | some row =>
    rw [h.layout_eq] at hrow
    obtain ⟨chosen, hchosen⟩ := exists_header_cell h (h.keywordRow row hrow) hc
    dsimp only
    rw [hchosen]
    exact hrest chosen _ rfl fun _ => rfl

theorem exists_schema (h : Accepted grid layout types t) : ∃ s, t.schema = .ok s := by
  have hfield : ∀ c ∈ List.range t.grid.columnCount, ∃ f?, t.field? c = .ok f? := by
    intro c hc
    have hlt := List.mem_range.mp hc
    have hdeclared := declaredType_eq_ok.mpr ⟨hlt, rfl⟩
    unfold DataTable.field?
    cases htype : (t.columnTypes[c]?).join with
    | none => exact ⟨none, bind_eq_ok.mpr ⟨none, by rw [← htype, hdeclared], rfl⟩⟩
    | some type =>
      obtain ⟨name, hname⟩ := exists_header_cell h h.nameRow hlt
      obtain ⟨comment, hcomment⟩ := exists_header_cell h h.commentRow hlt
      obtain ⟨keyword, hkeyword⟩ := exists_languageKeyword h hlt
      rw [← h.layout_eq] at hname hcomment
      exact ⟨_, bind_eq_ok.mpr ⟨some type, by rw [← htype, hdeclared],
        bind_eq_ok.mpr ⟨_, isIdColumn_eq_ok.mpr ⟨hlt, rfl⟩, bind_eq_ok.mpr ⟨name, hname,
          bind_eq_ok.mpr ⟨keyword, hkeyword, bind_eq_ok.mpr ⟨comment, hcomment, rfl⟩⟩⟩⟩⟩⟩
  obtain ⟨found, hfound⟩ := exists_mapM_eq_ok hfield
  exact ⟨_, bind_eq_ok.mpr ⟨found, hfound, rfl⟩⟩

end TypedTables.Proofs
