import TypedTables.Proofs.Table.Comments
import TypedTables.Proofs.Table.Faults

/-!
# Headers and content

Where the content of a table starts is set apart from where its header is. A row of the header is kept
out of the content by lying above the start, or by being marked as a comment, and by nothing else. What
is written for a table are the rows of its content, cell by cell.
-/

namespace TypedTables

/-- How the texts of a column are written. -/
structure Sheet.Column where
  index : Nat
  write : String → Except CellFault (List UInt8)

def Field.writing (f : Field) : Sheet.Column where
  index := f.column
  write text := do f.type.encode (← f.type.parse text)

/-- The column of a dictionary. -/
def Sheet.textColumn (c : Nat) : Sheet.Column where
  index := c
  write text := .ok (Wire.encode text)

/-- Whether the bytes are those of the cells of a row. -/
def Sheet.IsRecord (s : Sheet) (columns : List Sheet.Column) (r : Nat) (record : List UInt8) :
    Prop :=
  ∃ pieces, List.Forall₂ (fun column piece => ∃ text, s.value r column.index = .ok text ∧
    column.write text = .ok piece) columns pieces ∧ record = pieces.flatten

/-- Whether these are the rows of content of a sheet, and what is written are their records, one after
the other. Of the rows in the header, those are among them that lie behind the start of the content and
are no comments. -/
structure Sheet.WritesContent (s : Sheet) (start : Nat) (header : List Nat)
    (columns : List Sheet.Column) (encoded : Except TableError (List UInt8)) (content : List Nat) :
    Prop where
  contentRows : s.contentRows = .ok content
  ascending : content.Pairwise (· < ·)
  header_iff : ∀ r ∈ header, r ∈ content ↔ start ≤ r ∧ s.isCommentRow r = .ok false
  records : ∀ bytes, encoded = .ok bytes → ∃ records, bytes = records.flatten ∧
    List.Forall₂ (s.IsRecord columns) content records

namespace Proofs

variable {sheet : Sheet} {content : List Nat}

lemma pairwise_contentRowsFrom {r left : Nat} (h : sheet.contentRowsFrom r left = .ok content) :
    content.Pairwise (· < ·) := by
  induction left generalizing r content with
  | zero =>
    obtain rfl := Except.ok.inj h
    exact .nil
  | succ left ih =>
    obtain ⟨comment, -, h⟩ := bind_eq_ok.mp h
    obtain ⟨rest, hrest, h⟩ := bind_eq_ok.mp h
    obtain rfl := pure_eq_ok.mp h
    cases comment with
    | true => exact ih hrest
    | false =>
      refine List.pairwise_cons.mpr ⟨?_, ih hrest⟩
      intro x hx
      obtain ⟨hle, -⟩ := (mem_contentRowsFrom hrest x).mp hx
      omega

lemma mem_contentRows_of_header {header : List Nat} (h : sheet.contentRows = .ok content)
    (hheader : ∀ r ∈ header, r < sheet.rowCount) :
    ∀ r ∈ header, r ∈ content ↔ sheet.contentStart ≤ r ∧ sheet.isCommentRow r = .ok false := by
  intro r hr
  have hlt := hheader r hr
  rw [mem_contentRows h, and_iff_right hlt]

/-! ### Data tables -/

section DataTables

variable {t : DataTable} {s : Schema} {grid : Grid} {layout : DataTableLayout} {types : Registry}

lemma encodeCell_eq_ok_iff_writing {r : Nat} {f : Field} {piece : List UInt8} :
    t.encodeCell r f = .ok piece ↔ ∃ text, t.sheet.value r f.writing.index = .ok text ∧
      f.writing.write text = .ok piece := by
  rw [encodeCell_eq_ok]
  simp only [Field.writing, bind_eq_ok, exists_and_left]

lemma records_of_encodeRows (hs : t.schema = .ok s) (hcontent : t.sheet.contentRows = .ok content)
    {bytes : List UInt8} (h : t.encodeRows = .ok bytes) : ∃ records, bytes = records.flatten ∧
      List.Forall₂ (t.sheet.IsRecord (s.fields.map Field.writing)) content records := by
  rw [encodeRows_eq_mapM hs hcontent] at h
  obtain ⟨records, hrecords, rfl⟩ := map_eq_ok.mp h
  refine ⟨records, rfl, (mapM_eq_ok.mp hrecords).imp ?_⟩
  intro r record hrecord
  obtain ⟨pieces, hpieces, rfl⟩ := map_eq_ok.mp hrecord
  refine ⟨pieces, ?_, rfl⟩
  rw [List.forall₂_map_left_iff]
  exact (mapM_eq_ok.mp hpieces).imp fun _ _ => encodeCell_eq_ok_iff_writing.mp

lemma lt_rowCount_of_header (h : Accepted grid layout types t) :
    ∀ r ∈ layout.nameRow :: layout.headerRows, r < t.sheet.rowCount := by
  have hrows : t.sheet.rowCount = grid.rowCount := congrArg Grid.rowCount h.grid_eq
  rw [hrows]
  intro r hr
  simp only [DataTableLayout.headerRows, List.mem_cons, Option.mem_toList] at hr
  rcases hr with rfl | rfl | rfl | hkeyword
  · exact h.nameRow
  · exact h.typeRow
  · exact h.commentRow
  · exact h.keywordRow r hkeyword

lemma writesContent_dataTable (h : DataTable.ofGrid grid layout types = .ok t) :
    ∃ s content, t.schema = .ok s ∧ t.sheet.WritesContent layout.contentStartRow
      (layout.nameRow :: layout.headerRows) (s.fields.map Field.writing) t.encodeRows content := by
  have haccepted := accepted_of_ofGrid h
  obtain ⟨s, hs⟩ := exists_schema haccepted
  obtain ⟨content, hcontent, -⟩ := exists_contentRows t.sheet
  have hheader := mem_contentRows_of_header hcontent (lt_rowCount_of_header haccepted)
  have hstart : t.sheet.contentStart = layout.contentStartRow :=
    congrArg DataTableLayout.contentStartRow haccepted.layout_eq
  rw [hstart] at hheader
  exact ⟨s, content, hs, hcontent, pairwise_contentRowsFrom hcontent, hheader,
    fun bytes => records_of_encodeRows hs hcontent⟩

end DataTables

/-! ### Dictionaries -/

section Dictionaries

variable {d : Dictionary} {grid : Grid} {layout : DictionaryLayout}

lemma records_of_encodeTexts {columns : List Nat} (hcolumns : d.columns = .ok columns)
    (hcontent : d.sheet.contentRows = .ok content) {bytes : List UInt8}
    (h : d.encodeRows = .ok bytes) : ∃ records, bytes = records.flatten ∧
      List.Forall₂ (d.sheet.IsRecord (columns.map Sheet.textColumn)) content records := by
  unfold Dictionary.encodeRows at h
  obtain ⟨found, hfound, h⟩ := bind_eq_ok.mp h
  obtain rfl : found = columns := Except.ok.inj (hfound.symm.trans hcolumns)
  obtain ⟨rows, hrows, h⟩ := bind_eq_ok.mp h
  obtain rfl : rows = content := Except.ok.inj (hrows.symm.trans hcontent)
  obtain ⟨records, hrecords, h⟩ := bind_eq_ok.mp h
  obtain rfl := pure_eq_ok.mp h
  refine ⟨records, rfl, (mapM_eq_ok.mp hrecords).imp ?_⟩
  intro r record hrecord
  obtain ⟨pieces, hpieces, hrecord⟩ := bind_eq_ok.mp hrecord
  obtain rfl := pure_eq_ok.mp hrecord
  refine ⟨pieces, ?_, rfl⟩
  rw [List.forall₂_map_left_iff]
  refine (mapM_eq_ok.mp hpieces).imp fun c piece hpiece => ?_
  obtain ⟨text, htext, hpiece⟩ := bind_eq_ok.mp hpiece
  obtain rfl := pure_eq_ok.mp hpiece
  exact ⟨text, htext, rfl⟩

lemma writesContent_dictionary (h : Dictionary.ofGrid grid layout = .ok d) :
    ∃ columns content, d.columns = .ok columns ∧ d.sheet.WritesContent layout.contentStartRow
      [layout.nameRow] (columns.map Sheet.textColumn) d.encodeRows content := by
  obtain ⟨rfl, hname, hstart⟩ := ofGrid_eq_ok h
  set d : Dictionary := ⟨grid, layout⟩
  have hcolumns : d.columns = .ok (namedColumns d) := columns_eq hname
  obtain ⟨content, hcontent, -⟩ := exists_contentRows d.sheet
  have hheader : ∀ r ∈ [layout.nameRow], r < d.sheet.rowCount := by
    intro r hr
    rw [List.mem_singleton.mp hr]
    exact hname
  exact ⟨namedColumns d, content, hcolumns, hcontent, pairwise_contentRowsFrom hcontent,
    mem_contentRows_of_header hcontent hheader, fun bytes => records_of_encodeTexts hcolumns hcontent⟩

end Dictionaries

/-- Rows of content are what is written for data tables and for dictionaries. A row of the header is
among them exactly if it does not lie above the start of the content and is no comment. -/
theorem writesContent_of_ofGrid :
    (∀ grid layout types t, DataTable.ofGrid grid layout types = .ok t → ∃ s content,
      t.schema = .ok s ∧ t.sheet.WritesContent layout.contentStartRow
        (layout.nameRow :: layout.headerRows) (s.fields.map Field.writing) t.encodeRows content) ∧
    ∀ grid layout d, Dictionary.ofGrid grid layout = .ok d → ∃ columns content,
      d.columns = .ok columns ∧ d.sheet.WritesContent layout.contentStartRow [layout.nameRow]
        (columns.map Sheet.textColumn) d.encodeRows content := by
  constructor
  · intro grid layout types t h
    exact writesContent_dataTable h
  · intro grid layout d h
    exact writesContent_dictionary h

/-- Content starts at the top: names and types are marked as comments, the comments are not. -/
def markedGrid : Grid where
  rows := [["#", "Heroes", ""], ["#", "Id", "Name"], ["#", "int", "string"], ["", "7", "Ada"]]
  rectangular := by decide

def textsGrid : Grid where
  rows := [["Texts", ""], ["Key", "Value"], ["Hello", "World"]]
  rectangular := by decide

theorem writesContent_of_ofGrid_marked :
    (∃ t s, DataTable.ofGrid markedGrid { contentStartRow := 0 } .standard = .ok t ∧
      t.schema = .ok s ∧ t.sheet.WritesContent 0 [1, 2, 3] (s.fields.map Field.writing) t.encodeRows
        [3]) ∧
    ∃ d columns, Dictionary.ofGrid textsGrid { nameRow := 1, contentStartRow := 2 } = .ok d ∧
      d.columns = .ok columns ∧ d.sheet.WritesContent 2 [1] (columns.map Sheet.textColumn)
        d.encodeRows [2] := by
  obtain ⟨ofTable, ofTexts⟩ := writesContent_of_ofGrid
  have hfound : (DataTable.ofGrid markedGrid { contentStartRow := 0 } .standard).toOption.bind
      (fun t => t.sheet.contentRows.toOption) = some [3] := by
    decide +kernel
  obtain ⟨t, ht, hrows⟩ := Option.bind_eq_some_iff.mp hfound
  have hmade := toOption_eq_some.mp ht
  obtain ⟨s, content, hs, hcontent⟩ := ofTable _ _ _ t hmade
  obtain rfl : content = [3] :=
    Except.ok.inj (hcontent.contentRows.symm.trans (toOption_eq_some.mp hrows))
  have htexts : Dictionary.ofGrid textsGrid { nameRow := 1, contentStartRow := 2 } =
      .ok ⟨textsGrid, { nameRow := 1, contentStartRow := 2 }⟩ := rfl
  obtain ⟨columns, content, hcolumns, hcontent'⟩ := ofTexts _ _ _ htexts
  obtain rfl : content = [2] := Except.ok.inj (hcontent'.contentRows.symm.trans rfl)
  exact ⟨⟨t, s, hmade, hs, hcontent⟩, _, columns, htexts, hcolumns, hcontent'⟩

/-- Where the content starts with the names, they are written as if they were texts. -/
theorem mem_contentRows_nameRow : ∃ d content,
    Dictionary.ofGrid textsGrid { nameRow := 1 } = .ok d ∧ d.sheet.contentRows = .ok content ∧
    d.layout.nameRow ∈ content ∧
    d.encodeRows = .ok (["Key", "Value", "Hello", "World"].flatMap Wire.encode) := by
  refine ⟨⟨textsGrid, { nameRow := 1 }⟩, [1, 2], rfl, rfl, List.mem_cons_self, ?_⟩
  apply toOption_eq_some.mp
  decide +kernel

end Proofs

end TypedTables
