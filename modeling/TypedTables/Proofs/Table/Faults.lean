import TypedTables.Proofs.ColumnType.Shape
import TypedTables.Proofs.Row.Fields
import TypedTables.Proofs.Table.Dictionary
import TypedTables.Proofs.Table.Records

/-!
# Why a table cannot be written

A table is written from the cells of its grid, and a line of its source is read as text in another
way. Main statement: writing fails exactly if some line of content cannot be read, and its error is
that of the first such line, in the same column and for the same cause.
-/

namespace TypedTables.Proofs

variable {t : DataTable} {s : Schema} {trimChars : List Char} {lines : List String}
variable {content : List Nat} {r : Nat}

/-- The error in a row of a table that is this error in its line. -/
def IsInRow (r : Nat) (e : TableError) (e' : RowError) : Prop :=
  ∃ column cause, e' = .conversion column cause ∧ e = .conversion r column cause

/-! ### Cells -/

section Cell

variable {f : Field} {text : String} {cells : List String}
variable (hvalue : t.sheet.value r f.column = .ok text) (hcell : cells[f.column]? = some text)

include hvalue hcell

lemma exists_encodeCell_iff :
    (∃ piece, t.encodeCell r f = .ok piece) ↔ ∃ v, f.ofCells cells = .ok v := by
  simp only [encodeCell_eq_ok, Field.ofCells, hvalue, hcell, mapError_eq_ok]
  constructor
  · rintro ⟨piece, _, v, h, hv, -⟩
    obtain rfl := Except.ok.inj h
    exact ⟨v, hv⟩
  · rintro ⟨v, hv⟩
    obtain ⟨piece, hpiece⟩ := exists_encode_of_parse hv
    exact ⟨piece, text, v, rfl, hv, hpiece⟩

/-- Writing a cell fails only in the reading of its text. -/
lemma encodeCell_eq_error {e : TableError} :
    t.encodeCell r f = .error e ↔ ∃ e', f.ofCells cells = .error e' ∧ IsInRow r e e' := by
  have hencode : ∀ v, f.type.parse text = .ok v → ∀ cause, f.type.encode v ≠ .error cause := by
    intro v hv cause hcause
    obtain ⟨piece, hpiece⟩ := exists_encode_of_parse hv
    rw [hcause] at hpiece
    cases hpiece
  unfold DataTable.encodeCell
  simp only [bind_eq_error, mapError_eq_ok, mapError_eq_error, Field.ofCells, hvalue, hcell]
  constructor
  · rintro (h | ⟨_, h, ⟨cause, hcause, rfl⟩ | ⟨v, hv, cause, hcause, -⟩⟩)
    · cases h
    · obtain rfl := Except.ok.inj h
      exact ⟨_, ⟨cause, hcause, rfl⟩, f.column, cause, rfl, rfl⟩
    · obtain rfl := Except.ok.inj h
      exact absurd hcause (hencode v hv cause)
  · rintro ⟨_, ⟨cause, hcause, rfl⟩, column, cause', hsame, rfl⟩
    obtain ⟨rfl, rfl⟩ := RowError.conversion.inj hsame
    exact .inr ⟨text, rfl, .inl ⟨cause, hcause, rfl⟩⟩

end Cell

/-! ### Rows -/

/-- Whether a line holds the cells of a row. -/
def IsLineOf (t : DataTable) (s : Schema) (trimChars : List Char) (r : Nat) (line : String) : Prop :=
  ∀ f ∈ s.fields, ∃ text, t.sheet.value r f.column = .ok text ∧
    (lineCells trimChars line)[f.column]? = some text

section Row

variable {line : String} (h : IsLineOf t s trimChars r line)

include h

/-- A row can be written exactly if its line can be read. -/
lemma exists_row_iff : (∃ pieces, s.fields.mapM (t.encodeCell r) = .ok pieces) ↔
    ∃ values, s.parseLine trimChars line = .ok values := by
  rw [parseLine_eq_mapM, exists_mapM_eq_ok_iff, exists_mapM_eq_ok_iff]
  refine forall₂_congr fun f hf => ?_
  obtain ⟨text, hvalue, hcell⟩ := h f hf
  exact exists_encodeCell_iff hvalue hcell

/-- The error in writing a row is that in reading its line. -/
lemma row_eq_error {e : TableError} : s.fields.mapM (t.encodeCell r) = .error e ↔
    ∃ e', s.parseLine trimChars line = .error e' ∧ IsInRow r e e' := by
  rw [parseLine_eq_mapM]
  apply mapM_eq_error_congr
  · intro f hf
    obtain ⟨text, hvalue, hcell⟩ := h f hf
    exact exists_encodeCell_iff hvalue hcell
  · intro f hf
    obtain ⟨text, hvalue, hcell⟩ := h f hf
    exact encodeCell_eq_error hvalue hcell

end Row

/-- A table is written row by row, and a row cell by cell. -/
lemma encodeRows_eq_mapM (hs : t.schema = .ok s) (hcontent : t.sheet.contentRows = .ok content) :
    t.encodeRows = (content.mapM fun r =>
      (s.fields.mapM (t.encodeCell r)).map List.flatten).map List.flatten := by
  have hrow : (fun r => do return (← s.fields.mapM (t.encodeCell r)).flatten) =
      fun r => (s.fields.mapM (t.encodeCell r)).map List.flatten := by
    funext r
    cases s.fields.mapM (t.encodeCell r) <;> rfl
  unfold DataTable.encodeRows
  rw [hs, hcontent]
  simp only [← hrow]
  rfl

lemma exists_encodeRows_iff (hs : t.schema = .ok s) (hcontent : t.sheet.contentRows = .ok content) :
    (∃ bytes, t.encodeRows = .ok bytes) ↔
      ∀ r ∈ content, ∃ pieces, s.fields.mapM (t.encodeCell r) = .ok pieces := by
  rw [encodeRows_eq_mapM hs hcontent, exists_map_eq_ok, exists_mapM_eq_ok_iff]
  simp only [exists_map_eq_ok]

/-- A table fails with the error of the first row that cannot be written. -/
lemma encodeRows_eq_error (hs : t.schema = .ok s) (hcontent : t.sheet.contentRows = .ok content)
    {e : TableError} : t.encodeRows = .error e ↔ ∃ before r after, content = before ++ r :: after ∧
      (∀ x ∈ before, ∃ pieces, s.fields.mapM (t.encodeCell x) = .ok pieces) ∧
        s.fields.mapM (t.encodeCell r) = .error e := by
  rw [encodeRows_eq_mapM hs hcontent, map_eq_error, mapM_eq_error]
  simp only [map_eq_error, exists_map_eq_ok]

/-! ### Lines of content -/

/-- The first content row whose line cannot be read: where its line stops, and why. -/
structure IsFirstFault (s : Schema) (trimChars : List Char) (lines : List String)
    (content : List Nat) (row column : Nat) (cause : CellFault) : Prop where
  isFirst : ∃ before after, content = before ++ row :: after ∧
    ∀ r ∈ before, ∃ line values, lines[r]? = some line ∧ s.parseLine trimChars line = .ok values
  isFault : ∃ line, lines[row]? = some line ∧
    s.parseLine trimChars line = .error (.conversion column cause)

/-- Whether a table fails to be written just as its lines fail to be read. -/
structure FailsAsLines (t : DataTable) (s : Schema) (trimChars : List Char) (lines : List String)
    (content : List Nat) : Prop where
  hasLine : ∀ r ∈ content, ∃ line, lines[r]? = some line
  fails_iff : (∃ e, t.encodeRows = .error e) ↔
    ∃ r ∈ content, ∃ line e, lines[r]? = some line ∧ s.parseLine trimChars line = .error e
  error_iff : ∀ e, t.encodeRows = .error e ↔ ∃ row column cause,
    IsFirstFault s trimChars lines content row column cause ∧ e = .conversion row column cause

lemma exists_contentRows (sheet : Sheet) :
    ∃ content, sheet.contentRows = .ok content ∧ ∀ r ∈ content, r < sheet.rowCount := by
  by_cases hstart : sheet.contentStart ≤ sheet.rowCount
  · refine ⟨_, contentRows_eq hstart, ?_⟩
    intro r hr
    have hrange := List.mem_range'_1.mp (List.mem_of_mem_filter hr)
    omega
  · refine ⟨[], ?_, by simp⟩
    rw [Sheet.contentRows, Nat.sub_eq_zero_of_le (by omega)]
    rfl

/-- Every row of content has a line in the source, with the same cells. -/
lemma exists_isLineOf (hs : t.schema = .ok s) (hrows : t.grid.rows = lines.map (lineCells trimChars))
    (hr : r < t.grid.rowCount) :
    ∃ line, lines[r]? = some line ∧ IsLineOf t s trimChars r line := by
  have hlength : r < lines.length := by
    rwa [Grid.rowCount, hrows, List.length_map] at hr
  refine ⟨lines[r], List.getElem?_eq_getElem hlength, ?_⟩
  intro f hf
  obtain ⟨text, htext⟩ := exists_cell hr (isField_of_mem hs hf).inGrid
  obtain ⟨line, hline, hcell⟩ := (value_eq_ok hrows).mp htext
  rw [List.getElem?_eq_getElem hlength, Option.some.injEq] at hline
  exact ⟨text, htext, by rw [hline]; exact hcell⟩

section Content

variable {line : Nat → String} (hs : t.schema = .ok s) (hcontent : t.sheet.contentRows = .ok content)
variable (hget : ∀ r ∈ content, lines[r]? = some (line r))
variable (hcells : ∀ r ∈ content, IsLineOf t s trimChars r (line r))

include hs hcontent hget hcells

lemma fails_iff : (∃ e, t.encodeRows = .error e) ↔
    ∃ r ∈ content, ∃ line e, lines[r]? = some line ∧ s.parseLine trimChars line = .error e := by
  constructor
  · rintro ⟨e, he⟩
    obtain ⟨before, r, after, rfl, -, hrow⟩ := (encodeRows_eq_error hs hcontent).mp he
    have hr : r ∈ before ++ r :: after := by simp
    obtain ⟨e', hfault, -⟩ := (row_eq_error (hcells r hr)).mp hrow
    exact ⟨r, hr, line r, e', hget r hr, hfault⟩
  · rintro ⟨r, hr, found, e, hfound, hfault⟩
    obtain rfl := Option.some.inj ((hget r hr).symm.trans hfound)
    cases hbytes : t.encodeRows with
    | error e' => exact ⟨e', rfl⟩
    | ok bytes =>
      have hrow := (exists_encodeRows_iff hs hcontent).mp ⟨bytes, hbytes⟩ r hr
      obtain ⟨values, hvalues⟩ := (exists_row_iff (hcells r hr)).mp hrow
      rw [hvalues] at hfault
      cases hfault

lemma error_iff_isFirstFault (e : TableError) : t.encodeRows = .error e ↔ ∃ row column cause,
    IsFirstFault s trimChars lines content row column cause ∧ e = .conversion row column cause := by
  rw [encodeRows_eq_error hs hcontent]
  constructor
  · rintro ⟨before, row, after, rfl, hbefore, hrow⟩
    have hmem : row ∈ before ++ row :: after := by simp
    obtain ⟨_, hfault, column, cause, rfl, rfl⟩ := (row_eq_error (hcells row hmem)).mp hrow
    refine ⟨row, column, cause, ⟨⟨before, after, rfl, fun r hr => ?_⟩, ?_⟩, rfl⟩
    · have hr' := List.mem_append_left (row :: after) hr
      obtain ⟨values, hvalues⟩ := (exists_row_iff (hcells r hr')).mp (hbefore r hr)
      exact ⟨line r, values, hget r hr', hvalues⟩
    · exact ⟨line row, hget row hmem, hfault⟩
  · rintro ⟨row, column, cause, ⟨⟨before, after, rfl, hbefore⟩, found, hfound, hfault⟩, rfl⟩
    have hmem : row ∈ before ++ row :: after := by simp
    obtain rfl := Option.some.inj ((hget row hmem).symm.trans hfound)
    refine ⟨before, row, after, rfl, fun r hr => ?_, ?_⟩
    · have hr' := List.mem_append_left (row :: after) hr
      obtain ⟨found, values, hfound, hvalues⟩ := hbefore r hr
      obtain rfl := Option.some.inj ((hget r hr').symm.trans hfound)
      exact (exists_row_iff (hcells r hr')).mpr ⟨values, hvalues⟩
    · exact (row_eq_error (hcells row hmem)).mpr ⟨_, hfault, column, cause, rfl, rfl⟩

end Content

/-- A table from a source fails to be written exactly if some line of content cannot be read, and
then with the row, the column and the cause of the first of them. What has been read from a text is
never refused in writing. -/
theorem failsAsLines_ofSource {source : String} {layout : DataTableLayout} {types : Registry}
    (h : DataTable.ofSource source trimChars layout types = .ok t) :
    ∃ s content, t.schema = .ok s ∧ t.sheet.contentRows = .ok content ∧
      FailsAsLines t s trimChars (sourceLines source) content ∧
      ∀ (type : ColumnType) (text : String) (v : Value), type.parse text = .ok v →
        ∃ bytes, type.encode v = .ok bytes := by
  obtain ⟨hrows, haccepted⟩ := rows_ofSource h
  obtain ⟨s, hs⟩ := exists_schema haccepted
  obtain ⟨content, hcontent, hlt⟩ := exists_contentRows t.sheet
  have hline : ∀ r ∈ content, ∃ line, (sourceLines source)[r]? = some line ∧
      IsLineOf t s trimChars r line := fun r hr => exists_isLineOf hs hrows (hlt r hr)
  choose! line hget hcells using hline
  refine ⟨s, content, hs, hcontent, ⟨?_, ?_, ?_⟩, fun _ _ _ => exists_encode_of_parse⟩
  · exact fun r hr => ⟨line r, hget r hr⟩
  · exact fails_iff hs hcontent hget hcells
  · exact error_iff_isFirstFault hs hcontent hget hcells

/-- A source whose first fault lies in a component, behind a row of comments that has faults, too. -/
def troubledHeroes : String :=
  "\ufeff\tHeroes\t\t\n\tid\tName\tHome\n\tint\tstring\tVector2\n\tkey\tname\twhere\n" ++
    "\t300\tAda\t1,-2.5\n#\t?\tnobody\t0\n?\t-1\t\t0, x\n\t?\t\t0\n"

theorem failsAsLines_ofSource_troubledHeroes : ∃ t,
    DataTable.ofSource troubledHeroes ['"'] {} Registry.standard = .ok t ∧
      t.encodeRows.mapError TableError.message =
        .error "Conversion at row 6, column 3: 'x' is not a valid f32: invalid float literal" ∧
      ∃ s content, t.schema = .ok s ∧ t.sheet.contentRows = .ok content ∧
        FailsAsLines t s ['"'] (sourceLines troubledHeroes) content ∧
        ∀ (type : ColumnType) (text : String) (v : Value), type.parse text = .ok v →
          ∃ bytes, type.encode v = .ok bytes := by
  have hfault : (DataTable.ofSource troubledHeroes ['"'] {} Registry.standard).toOption.map
      (fun t => t.encodeRows.mapError TableError.message) =
        some (.error "Conversion at row 6, column 3: 'x' is not a valid f32: invalid float literal") := by
    decide +kernel
  obtain ⟨t, ht, hmessage⟩ := Option.map_eq_some_iff.mp hfault
  have hmade := toOption_eq_some.mp ht
  exact ⟨t, hmade, hmessage, failsAsLines_ofSource hmade⟩

end TypedTables.Proofs
