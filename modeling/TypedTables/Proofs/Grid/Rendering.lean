import TypedTables.Proofs.Grid.Lines

/-!
# Rendered tables

A table is written with tabs between the cells of a row and a line end behind each row. Its cells
may be wrapped in characters that are removed when they are read. Main statement: parsing gives
back the rows, whatever the line ends are, and with or without the optional parts of the text.
-/

namespace TypedTables.Proofs

open Text (splitOn splitLines dropEmptyLast dropMark joinChars joinWith stripChars stripWhile)

variable {trimChars : List Char}

/-! ### Renderings -/

/-- `text` is the cell between characters that are removed from the ends of cells. -/
def Wraps (trimChars : List Char) (cell text : String) : Prop :=
  ∃ left right : List Char, (∀ c ∈ left, c ∈ trimChars) ∧ (∀ c ∈ right, c ∈ trimChars) ∧
    text.toList = left ++ cell.toList ++ right

/-- The text of lines. The end of the last one may be left out if that line is not empty. -/
inductive IsBody (terminator : String) (lines : List String) : String → Prop
  | closed : IsBody terminator lines (String.join (lines.map (· ++ terminator)))
  | unclosed (h : lines.getLast? ≠ some "") : IsBody terminator lines (joinWith terminator lines)

/-- A text behind a byte order mark. The mark may be left out if the text starts with none. -/
inductive IsMarked (body : String) : String → Prop
  | marked : IsMarked body ("\ufeff" ++ body)
  | unmarked (h : body.toList.head? ≠ some '\ufeff') : IsMarked body body

/-- `source` stands for the rows: each cell is wrapped somehow. -/
def IsRendering (trimChars : List Char) (terminator : String) (rows : List (List String))
    (source : String) : Prop :=
  ∃ texts body, List.Forall₂ (List.Forall₂ (Wraps trimChars)) rows texts ∧
    IsBody terminator (texts.map (joinWith "\t")) body ∧ IsMarked body source

/-- A cell that can be told from what it is wrapped in and from the cells around it. -/
structure IsPlainCell (trimChars : List Char) (cell : String) : Prop where
  chars : ∀ c ∈ cell.toList, IsCellChar c
  head : ∀ c ∈ cell.toList.head?, c ∉ trimChars
  last : ∀ c ∈ cell.toList.getLast?, c ∉ trimChars

/-! ### Cells -/

lemma stripChars_of_wraps {cell text : String} (hcell : IsPlainCell trimChars cell)
    (h : Wraps trimChars cell text) : stripChars trimChars text = cell := by
  obtain ⟨left, right, hleft, hright, htext⟩ := h
  rw [stripChars, htext, stripWhile_append_of_not, String.ofList_toList]
  · simpa using hleft
  · simpa using hright
  · simpa using hcell.head
  · simpa using hcell.last

lemma isCellChar_of_wraps {cell text : String} (htrim : ∀ c ∈ trimChars, IsCellChar c)
    (hcell : IsPlainCell trimChars cell) (h : Wraps trimChars cell text) :
    ∀ c ∈ text.toList, IsCellChar c := by
  obtain ⟨left, right, hleft, hright, htext⟩ := h
  rw [htext, List.forall_mem_append, List.forall_mem_append]
  exact ⟨⟨fun c hc => htrim c (hleft c hc), hcell.chars⟩, fun c hc => htrim c (hright c hc)⟩

/-! ### Rows -/

section Rows

variable {row texts : List String}

lemma map_stripChars_of_wraps (hrow : ∀ cell ∈ row, IsPlainCell trimChars cell)
    (h : List.Forall₂ (Wraps trimChars) row texts) : texts.map (stripChars trimChars) = row := by
  induction h with
  | nil => rfl
  | cons hwraps _ ih =>
    obtain ⟨hcell, hrest⟩ := List.forall_mem_cons.mp hrow
    rw [List.map_cons, stripChars_of_wraps hcell hwraps, ih hrest]

lemma forall_isCellChar_of_wraps (htrim : ∀ c ∈ trimChars, IsCellChar c)
    (hrow : ∀ cell ∈ row, IsPlainCell trimChars cell)
    (h : List.Forall₂ (Wraps trimChars) row texts) :
    ∀ text ∈ texts, ∀ c ∈ text.toList, IsCellChar c := by
  induction h with
  | nil => exact List.forall_mem_nil _
  | cons hwraps _ ih =>
    obtain ⟨hcell, hrest⟩ := List.forall_mem_cons.mp hrow
    exact List.forall_mem_cons.mpr ⟨isCellChar_of_wraps htrim hcell hwraps, ih hrest⟩

lemma isLine_joinWith (h : ∀ text ∈ texts, ∀ c ∈ text.toList, IsCellChar c) :
    IsLine (joinWith "\t" texts).toList := by
  intro c hc
  rw [Text.toList_joinWith] at hc
  rcases mem_joinChars hc with htab | ⟨piece, hpiece, hc⟩
  · obtain rfl : c = '\t' := by simpa using htab
    decide
  · obtain ⟨text, htext, rfl⟩ := List.mem_map.mp hpiece
    exact (h text htext c hc).2

lemma lineCells_joinWith (hne : texts ≠ []) (h : ∀ text ∈ texts, ∀ c ∈ text.toList, IsCellChar c) :
    lineCells trimChars (joinWith "\t" texts) = texts.map (stripChars trimChars) := by
  rw [lineCells, fieldsOn_joinWith rfl hne fun text htext htab => (h text htext _ htab).1 rfl]

/-- A row is written on one line and read back from it. -/
lemma lineCells_of_wraps (htrim : ∀ c ∈ trimChars, IsCellChar c)
    (hrow : row ≠ [] ∧ ∀ cell ∈ row, IsPlainCell trimChars cell)
    (h : List.Forall₂ (Wraps trimChars) row texts) :
    IsLine (joinWith "\t" texts).toList ∧ lineCells trimChars (joinWith "\t" texts) = row := by
  have hchars := forall_isCellChar_of_wraps htrim hrow.2 h
  have hcells := map_stripChars_of_wraps hrow.2 h
  have hne : texts ≠ [] := by
    rintro rfl
    exact hrow.1 hcells.symm
  exact ⟨isLine_joinWith hchars, (lineCells_joinWith hne hchars).trans hcells⟩

end Rows

/-! ### Lines -/

section Lines

variable {terminator : String} {lines : List String}

/-- A carriage return is a line end of its own only if no line feed follows. -/
lemma afterBreak?_append (hterminator : terminator ∈ ["\n", "\r\n", "\r"]) {rest : List Char}
    (hrest : terminator = "\r" → '\n' ∉ rest) :
    afterBreak? (terminator.toList ++ rest) = some rest := by
  simp only [List.mem_cons, List.not_mem_nil, or_false] at hterminator
  rcases hterminator with rfl | rfl | rfl
  · rfl
  · rfl
  · have hfeed := hrest rfl
    change afterBreak? ('\r' :: rest) = some rest
    unfold afterBreak?
    split <;> simp_all

lemma splitLines_joinChars (hterminator : terminator ∈ ["\n", "\r\n", "\r"])
    {lines : List (List Char)} (hne : lines ≠ []) (hlines : ∀ line ∈ lines, IsLine line) :
    splitLines (joinChars terminator.toList lines) = lines := by
  induction lines with
  | nil => exact absurd rfl hne
  | cons line lines ih =>
    obtain ⟨hline, hrest⟩ := List.forall_mem_cons.mp hlines
    cases lines with
    | nil =>
      rw [joinChars, List.intercalate_singleton]
      exact splitLines_of_isLine hline
    | cons next lines =>
      have hnext := ih (List.cons_ne_nil _ _) hrest
      rw [joinChars] at hnext ⊢
      rw [List.intercalate_cons_cons, List.append_assoc, splitLines_break hline, hnext]
      refine afterBreak?_append hterminator ?_
      rintro rfl hfeed
      rcases mem_joinChars hfeed with h | ⟨piece, hpiece, h⟩
      · simp at h
      · exact hrest piece hpiece _ h (.inl rfl)

/-- Lines that are all ended are joined with the line end, an empty line standing behind them. -/
lemma toList_join_map_append (lines : List String) :
    (String.join (lines.map (· ++ terminator))).toList =
      joinChars terminator.toList (lines.map String.toList ++ [[]]) := by
  rw [String.toList_join, List.flatMap_map, joinChars]
  induction lines with
  | nil => rfl
  | cons line lines ih =>
    rw [List.flatMap_cons, ih, List.map_cons, List.cons_append,
      List.intercalate_cons_of_ne_nil (by simp), String.toList_append]

lemma splitLines_of_isBody (hterminator : terminator ∈ ["\n", "\r\n", "\r"])
    (hlines : ∀ line ∈ lines, IsLine line.toList) {body : String}
    (h : IsBody terminator lines body) :
    dropEmptyLast (splitLines body.toList) = lines.map String.toList := by
  have hmap : ∀ line ∈ lines.map String.toList, IsLine line := by simpa using hlines
  cases h with
  | closed =>
    rw [toList_join_map_append, splitLines_joinChars hterminator (by simp), dropEmptyLast,
      List.getLast?_concat, if_pos rfl, List.dropLast_concat]
    exact List.forall_mem_append.mpr ⟨hmap, by simp [IsLine]⟩
  | unclosed hlast =>
    rw [Text.toList_joinWith]
    by_cases hne : lines = []
    · subst hne
      rfl
    · rw [splitLines_joinChars hterminator (by simpa using hne) hmap, dropEmptyLast, if_neg]
      simpa [List.getLast?_map] using hlast

end Lines

/-! ### Sources -/

lemma dropMark_of_isMarked {body source : String} (h : IsMarked body source) :
    dropMark source.toList = body.toList := by
  cases h with
  | marked =>
    rw [String.toList_append]
    rfl
  | unmarked hhead =>
    unfold dropMark
    split
    · next heq => simp [heq] at hhead
    · rfl

lemma map_lineCells_of_wraps {rows texts : List (List String)}
    (htrim : ∀ c ∈ trimChars, IsCellChar c)
    (hrows : ∀ row ∈ rows, row ≠ [] ∧ ∀ cell ∈ row, IsPlainCell trimChars cell)
    (h : List.Forall₂ (List.Forall₂ (Wraps trimChars)) rows texts) :
    (∀ line ∈ texts.map (joinWith "\t"), IsLine line.toList) ∧
      (texts.map (joinWith "\t")).map (lineCells trimChars) = rows := by
  induction h with
  | nil => exact ⟨List.forall_mem_nil _, rfl⟩
  | cons hwraps _ ih =>
    obtain ⟨hrow, hrest⟩ := List.forall_mem_cons.mp hrows
    obtain ⟨hline, hcells⟩ := lineCells_of_wraps htrim hrow hwraps
    obtain ⟨hlines, hothers⟩ := ih hrest
    rw [List.map_cons, List.map_cons, hcells, hothers]
    exact ⟨List.forall_mem_cons.mpr ⟨hline, hlines⟩, rfl⟩

/-- Parsing undoes rendering. -/
theorem parse_of_isRendering {terminator : String} {rows : List (List String)} {source : String}
    (hterminator : terminator ∈ ["\n", "\r\n", "\r"]) (htrim : ∀ c ∈ trimChars, IsCellChar c)
    (hrows : ∀ row ∈ rows, row ≠ [] ∧ ∀ cell ∈ row, IsPlainCell trimChars cell)
    (h : IsRendering trimChars terminator rows source) : Source.parse source trimChars = rows := by
  obtain ⟨texts, body, hwraps, hbody, hmarked⟩ := h
  obtain ⟨hlines, hcells⟩ := map_lineCells_of_wraps htrim hrows hwraps
  have hsource : sourceLines source = texts.map (joinWith "\t") := by
    rw [sourceLines, dropMark_of_isMarked hmarked, splitLines_of_isBody hterminator hlines hbody,
      List.map_map]
    simp
  rw [parse_eq_map_lineCells, hsource, hcells]

/-- Rows ended by carriage returns, the first of one cell that is nothing but wrapped, behind a byte
order mark and without an end of the last row. -/
theorem parse_of_isRendering_wrapped :
    IsRendering ['"'] "\r" [[""], ["a", "\ufeff"]] "\ufeff\"\"\r\"a\"\t\ufeff" ∧
      Source.parse "\ufeff\"\"\r\"a\"\t\ufeff" ['"'] = [[""], ["a", "\ufeff"]] := by
  have hempty : Wraps ['"'] "" "\"\"" := ⟨['"'], ['"'], by simp, by simp, rfl⟩
  have hquoted : Wraps ['"'] "a" "\"a\"" := ⟨['"'], ['"'], by simp, by simp, rfl⟩
  have hbare : Wraps ['"'] "\ufeff" "\ufeff" := ⟨[], [], by simp, by simp, rfl⟩
  have hrows : ∀ row ∈ [[""], ["a", "\ufeff"]],
      row ≠ [] ∧ ∀ cell ∈ row, IsPlainCell ['"'] cell := by
    have hplain : ∀ cell ∈ ["", "a", "\ufeff"], IsPlainCell ['"'] cell := by
      intro cell hcell
      simp only [List.mem_cons, List.not_mem_nil, or_false] at hcell
      rcases hcell with rfl | rfl | rfl
      all_goals exact ⟨by simp [IsCellChar], by simp, by simp⟩
    simp [hplain]
  have hrendering :
      IsRendering ['"'] "\r" [[""], ["a", "\ufeff"]] "\ufeff\"\"\r\"a\"\t\ufeff" :=
    ⟨[["\"\""], ["\"a\"", "\ufeff"]], "\"\"\r\"a\"\t\ufeff",
      .cons (.cons hempty .nil) (.cons (.cons hquoted (.cons hbare .nil)) .nil),
      .unclosed (by decide), .marked⟩
  exact ⟨hrendering, parse_of_isRendering (by decide) (by simp [IsCellChar]) hrows hrendering⟩

end TypedTables.Proofs
