import TypedTables.Proofs.ColumnType.Text
import TypedTables.Proofs.Grid.Rendering
import TypedTables.Proofs.Table.RoundTrip
import TypedTables.Proofs.Table.Sound

/-!
# Text form of records

The decoded records of a table can be written as text, one line for each. No tab and no line end is
in the text of a value: a string is a cell of the source, and nothing else has white space in it. So
the lines and their cells are found again, and they give the records back.
-/

namespace TypedTables

/-- The schema for lines that have the cells of the fields and no others. -/
def Schema.renumbered (s : Schema) : Schema :=
  { s with fields := s.fields.mapIdx fun i f => { f with column := i } }

namespace Proofs

open Text (joinWith)

variable {t : DataTable} {s : Schema} {content : List Nat} {bytes : List UInt8}

/-! ### Cells of a source -/

lemma isLine_of_mem_sourceLines {source line : String} (h : line ∈ sourceLines source) :
    IsLine line.toList := by
  obtain ⟨chars, hchars, rfl⟩ := List.mem_map.mp h
  rw [String.toList_ofList]
  unfold Text.dropEmptyLast at hchars
  split at hchars
  · exact isLine_of_mem_splitLines (List.mem_of_mem_dropLast hchars)
  · exact isLine_of_mem_splitLines hchars

lemma isCellChar_of_mem_lineCells {trimChars : List Char} {line text : String}
    (hline : IsLine line.toList) (h : text ∈ lineCells trimChars line) :
    ∀ c ∈ text.toList, IsCellChar c := by
  obtain ⟨field, hfield, rfl⟩ := List.mem_map.mp h
  obtain ⟨piece, hpiece, rfl⟩ := List.mem_map.mp hfield
  rw [Text.toList_stripChars, String.toList_ofList]
  intro c hc
  have hmem := (stripWhile_sublist _ _).subset hc
  refine ⟨?_, hline c ((sublist_of_mem_splitOn hpiece).subset hmem)⟩
  rintro rfl
  exact not_mem_of_mem_splitOn hpiece hmem

lemma isCellChar_of_cell {source : String} {trimChars : List Char} {layout : DataTableLayout}
    {types : Registry} (h : DataTable.ofSource source trimChars layout types = .ok t) {r c : Nat}
    {text : String} (htext : t.grid.cell r c = .ok text) : ∀ c ∈ text.toList, IsCellChar c := by
  obtain ⟨line, hline, hcell⟩ := (value_eq_ok (rows_ofSource h).1).mp htext
  exact isCellChar_of_mem_lineCells (isLine_of_mem_sourceLines (List.mem_of_getElem? hline))
    (List.mem_of_getElem? hcell)

/-! ### Texts of values -/

lemma isCellChar_of_isSolid {text : String} (h : IsSolid text) : ∀ c ∈ text.toList, IsCellChar c := by
  intro c hc
  obtain ⟨hblank, -⟩ := h c hc
  refine ⟨?_, ?_⟩
  · rintro rfl
    exact hblank (by decide)
  · rintro (rfl | rfl)
    · exact hblank (by decide)
    · exact hblank (by decide)

/-- The text of a value has no separators of lines and cells if its cell has none. -/
lemma isCellChar_of_parse {type : ColumnType} (htype : type.IsFlat) {text : String} {v : Value}
    (hparse : type.parse text = .ok v) (htext : ∀ c ∈ text.toList, IsCellChar c) :
    ∀ c ∈ v.text.toList, IsCellChar c := by
  have hshape := hasShape_of_parse hparse
  cases htype with
  | builtin b =>
    by_cases hb : b = .string
    · subst hb
      rw [ColumnType.parse, Builtin.parse, map_eq_ok] at hparse
      obtain ⟨s, hs, rfl⟩ := hparse
      obtain rfl : text = s := by simpa [OfCell.ofCell] using hs
      exact htext
    · exact isCellChar_of_isSolid (isSolid_text (hasShape_builtin.mp hshape) hb)
  | custom hne hscalar =>
    obtain ⟨parts, rfl, hparts⟩ := hasShape_custom.mp hshape
    have hsolid := isSolid_of_mem_parts hscalar hparts
    intro c hc
    rw [Value.text, Text.toList_joinWith, Value.texts_eq_map] at hc
    rcases mem_joinChars hc with hcomma | ⟨piece, hpiece, hc⟩
    · obtain rfl : c = ',' := by simpa using hcomma
      exact ⟨by decide, by decide⟩
    · simp only [List.map_map, List.mem_map, Function.comp_apply] at hpiece
      obtain ⟨part, hpart, rfl⟩ := hpiece
      exact isCellChar_of_isSolid (hsolid part hpart) c hc

/-! ### Lines -/

lemma stripChars_nil (text : String) : Text.stripChars [] text = text := by
  rw [Text.stripChars, stripWhile_of_not (by simp), String.ofList_toList]

/-- The text of a row is read back from the cells of its line. -/
lemma parseLine_renumbered {value : Field → Value} (hne : s.fields ≠ [])
    (hparse : ∀ f ∈ s.fields, f.type.parse (value f).text = .ok (value f))
    (hchars : ∀ f ∈ s.fields, ∀ c ∈ (value f).text.toList, IsCellChar c) :
    s.renumbered.parseLine [] (joinWith "\t" (s.fields.map fun f => (value f).text)) =
      .ok (s.fields.map value) := by
  have hcells : lineCells [] (joinWith "\t" (s.fields.map fun f => (value f).text)) =
      s.fields.map fun f => (value f).text := by
    rw [lineCells_joinWith (mt List.map_eq_nil_iff.mp hne) (List.forall_mem_map.mpr hchars),
      List.map_map]
    exact List.map_congr_left fun f _ => stripChars_nil _
  rw [parseLine_eq_mapM, hcells, mapM_eq_ok, List.forall₂_iff_get]
  refine ⟨by simp [Schema.renumbered], fun i hi _ => ?_⟩
  have hi' : i < s.fields.length := by simpa [Schema.renumbered] using hi
  have hf := hparse s.fields[i] (List.getElem_mem hi')
  simp [Schema.renumbered, Field.ofCells, hi', hf, Except.mapError]

/-- A byte order mark before the first line does not matter for the others. -/
lemma tail_sourceLines {header : String} {lines : List String}
    (hlines : ∀ line ∈ header :: lines, IsLine line.toList) :
    (sourceLines (String.join ((header :: lines).map (· ++ "\n")))).tail = lines := by
  obtain ⟨hheader, hrest⟩ := List.forall_mem_cons.mp hlines
  obtain ⟨first, hmark⟩ : ∃ first : String, first.toList = Text.dropMark header.toList :=
    ⟨String.ofList _, String.toList_ofList⟩
  have hdrop : Text.dropMark (String.join ((header :: lines).map (· ++ "\n"))).toList =
      (String.join ((first :: lines).map (· ++ "\n"))).toList := by
    simp only [String.toList_join, List.map_cons, List.flatMap_cons, String.toList_append,
      List.append_assoc]
    rw [dropMark_append (by simp), hmark]
  have hfirst : IsLine first.toList := by
    rw [hmark]
    exact fun c hc => hheader c ((dropMark_sublist _).subset hc)
  have hsplit : Text.dropEmptyLast (Text.splitLines
      (String.join ((first :: lines).map (· ++ "\n"))).toList) =
        (first :: lines).map String.toList :=
    splitLines_of_isBody (by simp) (List.forall_mem_cons.mpr ⟨hfirst, hrest⟩) .closed
  rw [sourceLines, hdrop, hsplit]
  simp

/-- Behind its first line the text of records has one line for each of them. -/
lemma tail_sourceLines_formatRows {rows : List (List Value)}
    (hnames : ∀ f ∈ s.fields, ∀ c ∈ f.name.toList, IsCellChar c)
    (hrows : ∀ row ∈ rows, ∀ v ∈ row, ∀ c ∈ v.text.toList, IsCellChar c) :
    (sourceLines (s.formatRows rows)).tail = rows.map fun row => joinWith "\t" (row.map Value.text) := by
  have htext : s.formatRows rows =
      String.join ((joinWith "\t" (s.fields.map Field.name) ::
        rows.map fun row => joinWith "\t" (row.map Value.text)).map (· ++ "\n")) := by
    rw [Schema.formatRows, List.map_cons, String.join_cons, List.map_map]
    rfl
  rw [htext, tail_sourceLines]
  refine List.forall_mem_cons.mpr ⟨isLine_joinWith (List.forall_mem_map.mpr hnames), ?_⟩
  exact List.forall_mem_map.mpr fun row hrow =>
    isLine_joinWith (List.forall_mem_map.mpr (hrows row hrow))

/-! ### Tables -/

lemma isFlat_of_mem_fields {grid : Grid} {layout : DataTableLayout} {types : Registry}
    (htypes : types.Reachable) (haccepted : Accepted grid layout types t) (hs : t.schema = .ok s) :
    ∀ f ∈ s.fields, f.type.IsFlat := by
  intro f hf
  obtain ⟨keyword, -, hresolve⟩ := (isSchemaOf_of_accepted haccepted hs).types f hf
  exact isFlat_of_resolve (wellFormed_of_reachable htypes) hresolve

/-- The records of a table are read back from their text. -/
theorem formatRows_lossless {source : String} {trimChars : List Char} {layout : DataTableLayout}
    {types : Registry} (htypes : types.Reachable)
    (h : DataTable.ofSource source trimChars layout types = .ok t)
    (hbytes : t.encodeRows = .ok bytes) (hshort : HasShortCells t) :
    ∃ s rows, t.schema = .ok s ∧ s.decode bytes = .ok rows ∧
      ((∀ row ∈ rows, ∀ v ∈ row, v.isNanFree) →
        (sourceLines (s.formatRows rows)).tail.mapM (s.renumbered.parseLine []) = .ok rows) := by
  obtain ⟨s, content, value, piece, hs, hcontent, hwritten, rfl⟩ := exists_written hbytes
  obtain ⟨-, haccepted⟩ := rows_ofSource h
  obtain ⟨key, -, hkey, -, -, hint⟩ := exists_key haccepted hs
  have hflat := isFlat_of_mem_fields htypes haccepted hs
  have hnames : ∀ f ∈ s.fields, ∀ c ∈ f.name.toList, IsCellChar c := fun f hf =>
    isCellChar_of_cell h (isField_of_mem hs hf).name
  -- what is in no cell of the source is in no text of a value
  have hchars : ∀ r ∈ content, ∀ f ∈ s.fields, ∀ c ∈ (value r f).text.toList, IsCellChar c := by
    intro r hr f hf
    obtain ⟨text, htext, hparse⟩ := hwritten.parse r hr f hf
    exact isCellChar_of_parse (hflat f hf) hparse (isCellChar_of_cell h htext)
  refine ⟨s, content.map fun r => s.fields.map (value r), hs,
    decode_written hs hcontent hwritten hshort hkey hint, fun hnan => ?_⟩
  rw [tail_sourceLines_formatRows hnames (by simpa using hchars), mapM_eq_ok,
    List.forall₂_map_left_iff, List.forall₂_map_left_iff, List.forall₂_map_right_iff]
  apply List.forall₂_same.mpr
  intro r hr
  rw [List.map_map]
  refine parseLine_renumbered (List.ne_nil_of_mem hkey) (fun f hf => ?_) (hchars r hr)
  obtain ⟨text, -, hparse⟩ := hwritten.parse r hr f hf
  exact parse_text_of_hasShape (hflat f hf) (hasShape_of_parse hparse)
    (hnan _ (List.mem_map_of_mem hr) _ (List.mem_map_of_mem hf))

theorem formatRows_lossless_heroes : ∃ t bytes s rows,
    DataTable.ofSource heroes ['"'] {} Registry.standard = .ok t ∧ t.encodeRows = .ok bytes ∧
      HasShortCells t ∧ t.schema = .ok s ∧ s.decode bytes = .ok rows ∧
      (∀ row ∈ rows, ∀ v ∈ row, v.isNanFree) ∧
      s.formatRows rows = "id\tName\tHome\n300\tAda\t1,-2.5\n-1\t\t0,-0\n" ∧
      (sourceLines (s.formatRows rows)).tail.mapM (s.renumbered.parseLine []) = .ok rows := by
  have hfound : ((DataTable.ofSource heroes ['"'] {} Registry.standard).bind fun t =>
      t.encodeRows.bind fun bytes => t.schema.bind fun s =>
        ((s.decode bytes).mapError fun _ => TableError.index (.row 0)).map fun rows =>
          (rows.all fun row => row.all Value.isNanFree, s.formatRows rows)).toOption =
      some (true, "id\tName\tHome\n300\tAda\t1,-2.5\n-1\t\t0,-0\n") := by
    decide +kernel
  obtain ⟨t, ht, hfound⟩ := bind_eq_ok.mp (toOption_eq_some.mp hfound)
  obtain ⟨bytes, hbytes, hfound⟩ := bind_eq_ok.mp hfound
  obtain ⟨s, hs, hfound⟩ := bind_eq_ok.mp hfound
  obtain ⟨rows, hrows, hfound⟩ := map_eq_ok.mp hfound
  obtain ⟨hnan, htext⟩ := Prod.mk.inj hfound
  have hlength : (Wire.utf8 heroes).length < Wire.lengthModulus := by decide +kernel
  have hshort := hasShortCells_of_isShort ht hlength
  obtain ⟨s', rows', hs', hrows', hread⟩ := formatRows_lossless .standard ht hbytes hshort
  obtain rfl : s = s' := Except.ok.inj (hs.symm.trans hs')
  obtain rfl : rows = rows' := Except.ok.inj ((mapError_eq_ok.mp hrows).symm.trans hrows')
  have hfree : ∀ row ∈ rows, ∀ v ∈ row, v.isNanFree := by simpa using hnan
  exact ⟨t, bytes, s, rows, ht, hbytes, hshort, hs, hrows', hfree, htext, hread hfree⟩

end Proofs

end TypedTables
