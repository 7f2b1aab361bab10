import TypedTables.Proofs.Row.Fields
import TypedTables.Proofs.Table.Records

/-!
# Decoding what was encoded

The bytes of a table carry no marks between records or fields. Still, the schema alone recovers
every row from them, and each row is the one that its source line gives when it is read as text.
-/

namespace TypedTables.Proofs

variable {t : DataTable} {s : Schema} {content : List Nat} {bytes : List UInt8}

/-- Numbering the records changes only what is said of malformed bytes. -/
lemma reads_numberedRow {record : List UInt8} {row : List Value} (h : Reads s.readRow record row)
    (k : Nat) : Reads (s.readNumberedRow k) record row := by
  intro position rest
  rw [Schema.readNumberedRow, h position rest]

lemma parseLine_eq_ok {trimChars : List Char} {line : String} {value : Field → Value}
    (h : ∀ f ∈ s.fields, ∃ text, (lineCells trimChars line)[f.column]? = some text ∧
      f.type.parse text = .ok (value f)) :
    s.parseLine trimChars line = .ok (s.fields.map value) := by
  rw [parseLine_eq_mapM]
  apply mapM_eq_map
  intro f hf
  obtain ⟨text, htext, hv⟩ := h f hf
  simp only [Field.ofCells, htext, hv, Except.mapError]

/-- The records of a table are read back, since each of them takes bytes. -/
lemma decode_written {value : Nat → Field → Value} {piece : Nat → Field → List UInt8} {key : Field}
    (hs : t.schema = .ok s) (hcontent : t.sheet.contentRows = .ok content)
    (hwritten : Written t s content value piece) (hshort : HasShortCells t) (hkey : key ∈ s.fields)
    (hint : key.type = .builtin .int32) :
    s.decode (content.flatMap fun r => s.fields.flatMap (piece r)) =
      .ok (content.map fun r => s.fields.map (value r)) := by
  have hrecords : List.Forall₂ (fun record row =>
      record ≠ [] ∧ ∀ k, Reads (s.readNumberedRow k) record row)
      (content.map fun r => s.fields.flatMap (piece r))
      (content.map fun r => s.fields.map (value r)) := by
    rw [List.forall₂_map_left_iff, List.forall₂_map_right_iff]
    apply List.forall₂_same.mpr
    intro r hr
    refine ⟨flatMap_piece_ne_nil hwritten hr hkey hint hkey, reads_numberedRow ?_⟩
    have hread := reads_fields hs hcontent hwritten hshort hr (List.Subset.refl s.fields)
    rwa [← readEach_map] at hread
  rw [Schema.decode, List.flatMap_def]
  exact readRowsFrom_flatten hrecords 0 0

/-- Decoding the bytes of a table gives one row for each of its content rows, in order, and each
row is what the line of that row gives as text. -/
theorem decode_encodeRows {source : String} {trimChars : List Char} {layout : DataTableLayout}
    {types : Registry} (h : DataTable.ofSource source trimChars layout types = .ok t)
    (hbytes : t.encodeRows = .ok bytes) (hshort : HasShortCells t) :
    ∃ s content rows, t.schema = .ok s ∧ t.sheet.contentRows = .ok content ∧
      s.decode bytes = .ok rows ∧
      List.Forall₂ (fun r row => ∃ line, (sourceLines source)[r]? = some line ∧
        s.parseLine trimChars line = .ok row) content rows := by
  obtain ⟨s, content, value, piece, hs, hcontent, hwritten, rfl⟩ := exists_written hbytes
  obtain ⟨hrows, haccepted⟩ := rows_ofSource h
  obtain ⟨key, -, hkey, -, -, hint⟩ := exists_key haccepted hs
  refine ⟨s, content, content.map fun r => s.fields.map (value r), hs, hcontent, ?_, ?_⟩
  · exact decode_written hs hcontent hwritten hshort hkey hint
  · rw [List.forall₂_map_right_iff]
    apply List.forall₂_same.mpr
    intro r hr
    obtain ⟨line, hline, hcells⟩ := exists_line hrows hwritten hr hkey
    exact ⟨line, hline, parseLine_eq_ok hcells⟩

/-- A source with a byte order mark, a comment row between two content rows, and a column of
vectors. -/
def heroes : String :=
  "\ufeff\tHeroes\t\t\n\tid\tName\tHome\n\tint\tstring\tVector2\n\tkey\tname\twhere\n" ++
    "\t300\tAda\t1,-2.5\n#\t8\tnobody\t0,0\n\t-1\t\t0, -0\n"

theorem decode_encodeRows_heroes : ∃ t bytes,
    DataTable.ofSource heroes ['"'] {} Registry.standard = .ok t ∧ t.encodeRows = .ok bytes ∧
      HasShortCells t ∧
      ∃ s content rows, t.schema = .ok s ∧ t.sheet.contentRows = .ok content ∧
        s.decode bytes = .ok rows ∧
        List.Forall₂ (fun r row => ∃ line, (sourceLines heroes)[r]? = some line ∧
          s.parseLine ['"'] line = .ok row) content rows := by
  have hencoded : ((DataTable.ofSource heroes ['"'] {} Registry.standard).bind
      DataTable.encodeRows).toOption = some ([0xac, 2, 3, 65, 100, 97, 0, 0, 128, 63, 0, 0, 32, 192] ++
        [255, 255, 255, 255, 15, 0, 0, 0, 0, 0, 0, 0, 0, 128]) := by
    decide +kernel
  obtain ⟨t, ht, hbytes⟩ := bind_eq_ok.mp (toOption_eq_some.mp hencoded)
  have hlength : (Wire.utf8 heroes).length < Wire.lengthModulus := by decide +kernel
  have hshort := hasShortCells_of_isShort ht hlength
  exact ⟨t, _, ht, hbytes, hshort, decode_encodeRows ht hbytes hshort⟩

end TypedTables.Proofs
