import TypedTables.Proofs.ColumnType.Cell
import TypedTables.Proofs.Grid.Lines
import TypedTables.Proofs.Record.Rows
import TypedTables.Proofs.Table.Fields

/-!
# Records of a table

What has been written for a table, cell by cell: the value of every text and the bytes of every
value. A record is read field by field from these bytes, in whatever order the fields were written.
The texts themselves are those of the source lines.
-/

namespace TypedTables.Proofs

variable {t : DataTable} {s : Schema} {content : List Nat} {bytes : List UInt8}

/-- Whether no cell that is written is too long to be read back. -/
def HasShortCells (t : DataTable) : Prop :=
  ∀ s content, t.schema = .ok s → t.sheet.contentRows = .ok content →
    ∀ r ∈ content, ∀ f ∈ s.fields, ∀ text, t.sheet.value r f.column = .ok text → IsShort text

/-- The values and the bytes of the cells that are written. -/
structure Written (t : DataTable) (s : Schema) (content : List Nat) (value : Nat → Field → Value)
    (piece : Nat → Field → List UInt8) : Prop where
  parse : ∀ r ∈ content, ∀ f ∈ s.fields, ∃ text,
    t.sheet.value r f.column = .ok text ∧ f.type.parse text = .ok (value r f)
  encode : ∀ r ∈ content, ∀ f ∈ s.fields, f.type.encode (value r f) = .ok (piece r f)

lemma encodeCell_eq_ok {r : Nat} {f : Field} {piece : List UInt8} :
    t.encodeCell r f = .ok piece ↔ ∃ text v, t.sheet.value r f.column = .ok text ∧
      f.type.parse text = .ok v ∧ f.type.encode v = .ok piece := by
  unfold DataTable.encodeCell
  simp only [bind_eq_ok, mapError_eq_ok]
  constructor
  · rintro ⟨text, htext, v, hv, hpiece⟩
    exact ⟨text, v, htext, hv, hpiece⟩
  · rintro ⟨text, v, htext, hv, hpiece⟩
    exact ⟨text, htext, v, hv, hpiece⟩

/-- The bytes of a table are the bytes of its cells, row by row and field by field. -/
theorem exists_written (h : t.encodeRows = .ok bytes) : ∃ s content value piece,
    t.schema = .ok s ∧ t.sheet.contentRows = .ok content ∧ Written t s content value piece ∧
      bytes = content.flatMap fun r => s.fields.flatMap (piece r) := by
  unfold DataTable.encodeRows at h
  obtain ⟨s, hs, h⟩ := bind_eq_ok.mp h
  obtain ⟨content, hcontent, h⟩ := bind_eq_ok.mp h
  obtain ⟨records, hrecords, h⟩ := bind_eq_ok.mp h
  obtain rfl := pure_eq_ok.mp h
  have hcells : ∀ r ∈ content, ∀ f ∈ s.fields, ∃ v piece, t.encodeCell r f = .ok piece ∧
      (∃ text, t.sheet.value r f.column = .ok text ∧ f.type.parse text = .ok v) ∧
      f.type.encode v = .ok piece := by
    intro r hr f hf
    obtain ⟨record, -, hrecord⟩ := exists_of_mem_left (mapM_eq_ok.mp hrecords) hr
    obtain ⟨pieces, hpieces, -⟩ := bind_eq_ok.mp hrecord
    obtain ⟨piece, -, hpiece⟩ := exists_of_mem_left (mapM_eq_ok.mp hpieces) hf
    obtain ⟨text, v, htext, hv, hencode⟩ := encodeCell_eq_ok.mp hpiece
    exact ⟨v, piece, hpiece, ⟨text, htext, hv⟩, hencode⟩
  choose! value piece hcell hparse hencode using hcells
  have hwritten := mapM_eq_map (f := fun r => do
      return (← s.fields.mapM (t.encodeCell r)).flatten)
    (g := fun r => s.fields.flatMap (piece r)) (l := content) (by
      intro r hr
      exact bind_eq_ok.mpr ⟨_, mapM_eq_map (hcell r hr), rfl⟩)
  rw [hrecords, Except.ok.injEq] at hwritten
  exact ⟨s, content, value, piece, hs, hcontent, ⟨hparse, hencode⟩, by rw [hwritten]; rfl⟩

variable {value : Nat → Field → Value} {piece : Nat → Field → List UInt8}

/-! ### Reading fields in any order -/

lemma readEach_map (fields : List Field) :
    fields.mapM (fun f => f.type.read) = ColumnType.readEach (fields.map Field.type) := by
  induction fields with
  | nil => rfl
  | cons f rest ih => rw [List.mapM_cons, ih, List.map_cons, ColumnType.readEach]

lemma encodeEach_map {value : Field → Value} {piece : Field → List UInt8} {fields : List Field}
    (h : ∀ f ∈ fields, f.type.encode (value f) = .ok (piece f)) :
    ColumnType.encodeEach (fields.map Field.type) (fields.map value) =
      .ok (fields.flatMap piece) := by
  induction fields with
  | nil => rfl
  | cons f rest ih =>
    have hfirst := h f List.mem_cons_self
    have hrest := ih (fun g hg => h g (List.mem_cons_of_mem f hg))
    rw [List.map_cons, List.map_cons, ColumnType.encodeEach, List.flatMap_cons]
    exact bind_eq_ok.mpr ⟨_, hfirst, bind_eq_ok.mpr ⟨_, hrest, rfl⟩⟩

lemma haveShortTexts_map {value : Field → Value} {fields : List Field}
    (h : ∀ f ∈ fields, HasShortTexts (value f)) : HaveShortTexts (fields.map value) := by
  induction fields with
  | nil => trivial
  | cons f rest ih =>
    exact ⟨h f List.mem_cons_self, ih (fun g hg => h g (List.mem_cons_of_mem f hg))⟩

/-- Fields are read from the bytes of their cells, put together in the order of the reading. -/
theorem reads_fields (hs : t.schema = .ok s) (hcontent : t.sheet.contentRows = .ok content)
    (hwritten : Written t s content value piece) (hshort : HasShortCells t) {r : Nat}
    (hr : r ∈ content) {fields : List Field} (hfields : fields ⊆ s.fields) :
    Reads (ColumnType.readEach (fields.map Field.type)) (fields.flatMap (piece r))
      (fields.map (value r)) := by
  refine reads_encodeEach (encodeEach_map fun f hf => hwritten.encode r hr f (hfields hf))
    (by simp) (haveShortTexts_map ?_)
  intro f hf
  obtain ⟨text, htext, hv⟩ := hwritten.parse r hr f (hfields hf)
  exact parse_hasShortTexts hv (hshort s content hs hcontent r hr f (hfields hf) text htext)

/-- A record whose fields include a 32-bit integer takes bytes. -/
lemma flatMap_piece_ne_nil (hwritten : Written t s content value piece) {r : Nat}
    (hr : r ∈ content) {fields : List Field} {key : Field} (hkey : key ∈ s.fields)
    (htype : key.type = .builtin .int32) (hmem : key ∈ fields) :
    fields.flatMap (piece r) ≠ [] := by
  have hencode := hwritten.encode r hr key hkey
  rw [htype, ColumnType.encode] at hencode
  have hne : piece r key ≠ [] := by
    cases hv : value r key <;> simp only [hv, Builtin.encode?, reduceCtorEq] at hencode
    rw [← Except.ok.inj hencode]
    exact encode_ne_nil _
  intro hnil
  exact hne (List.flatMap_eq_nil_iff.mp hnil key hmem)

/-! ### The texts of the cells -/

lemma rows_ofSource {source : String} {trimChars : List Char} {layout : DataTableLayout}
    {types : Registry} (h : DataTable.ofSource source trimChars layout types = .ok t) :
    t.grid.rows = (sourceLines source).map (lineCells trimChars) ∧
      Accepted t.grid layout types t := by
  unfold DataTable.ofSource at h
  obtain ⟨grid, hgrid, h⟩ := bind_eq_ok.mp h
  have haccepted := accepted_of_ofGrid h
  have hrows : grid.rows = Source.parse source trimChars := by
    unfold Grid.ofSource Grid.ofRows at hgrid
    split at hgrid
    · rw [← Except.ok.inj hgrid]
    · simp at hgrid
  rw [haccepted.grid_eq]
  exact ⟨by rw [hrows, parse_eq_map_lineCells], haccepted⟩

lemma value_eq_ok {lines : List String} {trimChars : List Char}
    (hrows : t.grid.rows = lines.map (lineCells trimChars)) {r c : Nat} {text : String} :
    t.sheet.value r c = .ok text ↔
      ∃ line, lines[r]? = some line ∧ (lineCells trimChars line)[c]? = some text := by
  change t.grid.cell r c = .ok text ↔ _
  rw [cell_eq_ok, hrows, List.getElem?_map]
  simp only [Option.map_eq_some_iff]
  constructor
  · rintro ⟨cells, ⟨line, hline, rfl⟩, htext⟩
    exact ⟨line, hline, htext⟩
  · rintro ⟨line, hline, htext⟩
    exact ⟨_, ⟨line, hline, rfl⟩, htext⟩

lemma exists_line {lines : List String} {trimChars : List Char}
    (hrows : t.grid.rows = lines.map (lineCells trimChars))
    (hwritten : Written t s content value piece) {r : Nat} (hr : r ∈ content) {key : Field}
    (hkey : key ∈ s.fields) : ∃ line, lines[r]? = some line ∧ ∀ f ∈ s.fields, ∃ text,
      (lineCells trimChars line)[f.column]? = some text ∧ f.type.parse text = .ok (value r f) := by
  have hcells : ∀ f ∈ s.fields, ∃ line text, lines[r]? = some line ∧
      (lineCells trimChars line)[f.column]? = some text ∧ f.type.parse text = .ok (value r f) := by
    intro f hf
    obtain ⟨text, htext, hv⟩ := hwritten.parse r hr f hf
    obtain ⟨line, hline, hfield⟩ := (value_eq_ok hrows).mp htext
    exact ⟨line, text, hline, hfield, hv⟩
  obtain ⟨line, -, hline, -, -⟩ := hcells key hkey
  refine ⟨line, hline, ?_⟩
  intro f hf
  obtain ⟨line', text, hline', htext, hv⟩ := hcells f hf
  obtain rfl : line = line' := Option.some.inj (hline.symm.trans hline')
  exact ⟨text, htext, hv⟩

/-- The cells of a source that is short enough are short enough. -/
theorem hasShortCells_of_isShort {source : String} {trimChars : List Char}
    {layout : DataTableLayout} {types : Registry}
    (h : DataTable.ofSource source trimChars layout types = .ok t) (hshort : IsShort source) :
    HasShortCells t := by
  intro s content _ _ r _ f _ text htext
  obtain ⟨line, hline, hfield⟩ := (value_eq_ok (rows_ofSource h).1).mp htext
  have hsource := sublist_of_mem_sourceLines (List.mem_of_getElem? hline)
  obtain ⟨field, hmem, rfl⟩ := List.mem_map.mp (List.mem_of_getElem? hfield)
  obtain ⟨piece, hpiece, rfl⟩ := List.mem_map.mp hmem
  refine lt_of_le_of_lt (length_utf8_le_of_sublist ?_) hshort
  rw [Text.toList_stripChars, String.toList_ofList]
  exact (stripWhile_sublist _ _).trans ((sublist_of_mem_splitOn hpiece).trans hsource)

end TypedTables.Proofs
