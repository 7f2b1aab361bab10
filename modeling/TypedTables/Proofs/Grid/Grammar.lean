import TypedTables.Proofs.Grid.Lines
import TypedTables.Proofs.Grid.Pattern

/-!
# Grammar of tables

Tab-delimited text as a grammar: rows are separated by line ends, cells by single tabs, and a line
end at the very end starts no further row. Main statement: the grammar matches every text in full,
and the rows of its spans are the rows that the scanner reads.
-/

namespace TypedTables

namespace Grammar

open Pattern

inductive TableRule
  | cell
  | row
  | table
  | endOfInput
  deriving DecidableEq

def tab : Pattern TableRule := literal ['\t']

def newline : Pattern TableRule :=
  choice (literal ['\n']) (choice (literal ['\r', '\n']) (literal ['\r']))

/-- The patterns of the rules. -/
def tableGrammar : TableRule → Pattern TableRule
  | .cell => star (seq (notAhead (choice tab newline)) any)
  | .row => seq (rule .cell) (star (seq tab (rule .cell)))
  | .table =>
    seq start (seq (star (seq (rule .row) newline))
      (seq (optional (seq (notAhead (rule .endOfInput)) (rule .row))) (rule .endOfInput)))
  | .endOfInput => notAhead any

namespace Span

/-- The cells of a row, without the given characters at their ends. -/
def cells (trimChars : List Char) (row : Span TableRule) : List String :=
  (row.inner.filter (·.rule = .cell)).map fun cell =>
    Text.stripChars trimChars (String.ofList cell.text)

/-- The rows of a table. -/
def rows (trimChars : List Char) (table : Span TableRule) : List (List String) :=
  (table.inner.filter (·.rule = .row)).map (cells trimChars)

def ofCell (piece : List Char) : Span TableRule := ⟨.cell, piece, []⟩

def ofRow (line : List Char) : Span TableRule :=
  ⟨.row, line, (Text.splitOn '\t' line).map ofCell⟩

def ofTable (text : List Char) : Span TableRule :=
  ⟨.table, text,
    (Text.dropEmptyLast (Text.splitLines text)).map ofRow ++ [⟨.endOfInput, [], []⟩]⟩

end Span

end Grammar

namespace Proofs

open Grammar Grammar.Pattern
open Text (splitOn splitLines dropEmptyLast dropMark joinChars)

variable {source : List Char}

/-! ### Line ends -/

lemma matches_newline {input rest : List Char} (h : afterBreak? input = some rest) :
    Matches tableGrammar source newline input (some ([], rest)) := by
  unfold afterBreak? at h
  split at h
  case h_1 =>
    obtain rfl := Option.some.inj h
    exact .choice_first (.literal rfl)
  case h_2 =>
    obtain rfl := Option.some.inj h
    exact .choice_second (.literal_fails (by simp)) (.choice_first (.literal rfl))
  case h_3 behind hfeed =>
    obtain rfl := Option.some.inj h
    refine .choice_second (.literal_fails (by simp))
      (.choice_second (.literal_fails ?_) (.literal rfl))
    rintro ⟨behind', hbehind⟩
    exact hfeed behind' (List.cons.inj hbehind).2.symm
  case h_4 => cases h

lemma newline_fails {input : List Char} (h : ∀ c ∈ input.head?, ¬(c = '\n' ∨ c = '\r')) :
    Matches tableGrammar source newline input none := by
  have hfeed : ∀ c ∈ input.head?, c ≠ '\n' := fun c hc => (not_or.mp (h c hc)).1
  have hreturn : ∀ c ∈ input.head?, c ≠ '\r' := fun c hc => (not_or.mp (h c hc)).2
  exact .choice_second (literal_fails_of_head hfeed)
    (.choice_second (literal_fails_of_head hreturn) (literal_fails_of_head hreturn))

/-! ### Cells -/

lemma cellEnd_fails {input : List Char} (h : ∀ c ∈ input.head?, IsCellChar c) :
    Matches tableGrammar source (choice tab newline) input none :=
  .choice_second (literal_fails_of_head fun c hc => (h c hc).1)
    (newline_fails fun c hc => (h c hc).2)

lemma exists_cellEnd {c : Char} (hc : ¬IsCellChar c) (rest : List Char) :
    ∃ found, Matches tableGrammar source (choice tab newline) (c :: rest) (some found) := by
  by_cases htab : c = '\t'
  · exact ⟨([], rest), .choice_first (.literal (by rw [htab]; rfl))⟩
  · have hbreak : c = '\n' ∨ c = '\r' := by_contra fun hbreak => hc ⟨htab, hbreak⟩
    obtain ⟨behind, hbehind⟩ := exists_afterBreak? hbreak rest
    exact ⟨([], behind), .choice_second (literal_fails_of_head (by simpa using htab))
      (matches_newline hbehind)⟩

/-- A cell goes on up to the next tab or line end. -/
lemma matches_cell {piece rest : List Char} (hpiece : ∀ c ∈ piece, IsCellChar c)
    (hrest : ∀ c ∈ rest.head?, ¬IsCellChar c) :
    Matches tableGrammar source (rule .cell) (piece ++ rest) (some ([Span.ofCell piece], rest)) := by
  refine .rule rfl ?_
  induction piece with
  | nil =>
    refine .star_stop ?_
    cases rest with
    | nil => exact .seq_fails_second (.notAhead (cellEnd_fails (by simp))) .any_fails
    | cons c rest =>
      obtain ⟨found, hfound⟩ := exists_cellEnd (hrest c rfl) rest
      exact .seq_fails_first (.notAhead_fails hfound)
  | cons c piece ih =>
    obtain ⟨hc, hothers⟩ := List.forall_mem_cons.mp hpiece
    have hgoes : Matches tableGrammar source (choice tab newline) (c :: (piece ++ rest)) none :=
      cellEnd_fails (by simpa using hc)
    exact .star_step (.seq (.notAhead hgoes) (.any c _)) (ih hothers)

/-! ### Rows -/

section Rows

variable {rest : List Char}

/-- Behind a piece stands another tab, or the end of the row. -/
lemma not_isCellChar_behind (pieces : List (List Char))
    (hrest : ∀ c ∈ rest.head?, c = '\n' ∨ c = '\r') :
    ∀ c ∈ (pieces.flatMap (['\t'] ++ ·) ++ rest).head?, ¬IsCellChar c := by
  cases pieces with
  | nil => exact fun c hc hcell => hcell.2 (hrest c hc)
  | cons next pieces => simp [IsCellChar]

lemma matches_cells {pieces : List (List Char)}
    (hpieces : ∀ piece ∈ pieces, ∀ c ∈ piece, IsCellChar c)
    (hrest : ∀ c ∈ rest.head?, c = '\n' ∨ c = '\r') :
    Matches tableGrammar source (star (seq tab (rule .cell)))
      (pieces.flatMap (['\t'] ++ ·) ++ rest) (some (pieces.map Span.ofCell, rest)) := by
  induction pieces with
  | nil =>
    refine .star_stop (.seq_fails_first (literal_fails_of_head ?_))
    rintro c hc rfl
    simpa using hrest _ hc
  | cons piece pieces ih =>
    obtain ⟨hpiece, hothers⟩ := List.forall_mem_cons.mp hpieces
    rw [List.flatMap_cons, List.append_assoc, List.append_assoc]
    have hbehind := not_isCellChar_behind pieces hrest
    exact .star_step (.seq (.literal rfl) (matches_cell hpiece hbehind)) (ih hothers)

/-- A row goes on up to the next line end. -/
lemma matches_row {line : List Char} (hline : IsLine line)
    (hrest : ∀ c ∈ rest.head?, c = '\n' ∨ c = '\r') :
    Matches tableGrammar source (rule .row) (line ++ rest) (some ([Span.ofRow line], rest)) := by
  have hchars : ∀ piece ∈ splitOn '\t' line, ∀ c ∈ piece, IsCellChar c := by
    intro piece hpiece c hc
    refine ⟨?_, hline c ((sublist_of_mem_splitOn hpiece).mem hc)⟩
    rintro rfl
    exact not_mem_of_mem_splitOn hpiece hc
  have hjoin := joinChars_splitOn '\t' line
  rw [Span.ofRow]
  cases hpieces : splitOn '\t' line with
  | nil => exact absurd hpieces (Text.splitOn_ne_nil '\t' line)
  | cons piece pieces =>
    rw [hpieces] at hchars hjoin
    obtain ⟨hpiece, hothers⟩ := List.forall_mem_cons.mp hchars
    have hbehind := not_isCellChar_behind pieces hrest
    have hinput : line ++ rest = piece ++ (pieces.flatMap (['\t'] ++ ·) ++ rest) := by
      rw [← List.append_assoc, ← joinChars_cons, hjoin]
    refine .rule rfl ?_
    rw [hinput]
    exact .seq (matches_cell hpiece hbehind) (matches_cells hothers hrest)

lemma matches_row_nil {line : List Char} (hline : IsLine line) :
    Matches tableGrammar source (rule .row) line (some ([Span.ofRow line], [])) := by
  have hrow : Matches tableGrammar source (rule .row) (line ++ [])
      (some ([Span.ofRow line], [])) := matches_row hline (by simp)
  rwa [List.append_nil] at hrow

end Rows

/-! ### Tables -/

lemma matches_rows (source text : List Char) : ∃ lines last, splitLines text = lines ++ [last] ∧
    IsLine last ∧ Matches tableGrammar source (star (seq (rule .row) newline)) text
      (some (lines.map Span.ofRow, last)) := by
  induction text using line_induction with
  | last line hline =>
    refine ⟨[], line, splitLines_of_isLine hline, hline, .star_stop ?_⟩
    exact .seq_fails_second (matches_row_nil hline) (newline_fails (by simp))
  | step line behind rest hline hrest ih =>
    obtain ⟨lines, last, hlines, hlast, hmatches⟩ := ih
    refine ⟨line :: lines, last, ?_, hlast, ?_⟩
    · rw [splitLines_break hline hrest, hlines, List.cons_append]
    · have hbehind := head_of_afterBreak? hrest
      exact .star_step (.seq (matches_row hline hbehind) (matches_newline hrest)) hmatches

lemma matches_endOfInput :
    Matches tableGrammar source (rule .endOfInput) [] (some ([⟨.endOfInput, [], []⟩], [])) :=
  .rule rfl (.notAhead .any_fails)

/-- Behind the last line end stands a row, unless nothing does. -/
lemma matches_lastRow {last : List Char} (hlast : IsLine last) :
    Matches tableGrammar source (optional (seq (notAhead (rule .endOfInput)) (rule .row))) last
      (some ((dropEmptyLast [last]).map Span.ofRow, [])) := by
  cases last with
  | nil =>
    exact .choice_second (.seq_fails_first (.notAhead_fails matches_endOfInput)) (.literal rfl)
  | cons c last =>
    have hgoes : Matches tableGrammar source (rule .endOfInput) (c :: last) none :=
      .rule_fails (.notAhead_fails (.any c last))
    exact .choice_first (.seq (.notAhead hgoes) (matches_row_nil hlast))

lemma dropEmptyLast_concat (lines : List (List Char)) (last : List Char) :
    dropEmptyLast (lines ++ [last]) = lines ++ dropEmptyLast [last] := by
  cases last <;> simp [dropEmptyLast]

/-- The grammar matches every text, and all of it. -/
theorem matches_table (source : List Char) :
    Matches tableGrammar source (rule .table) source (some ([Span.ofTable source], [])) := by
  obtain ⟨lines, last, hlines, hlast, hrows⟩ := matches_rows source source
  have hall := Matches.start.seq (hrows.seq ((matches_lastRow hlast).seq matches_endOfInput))
  rw [Span.ofTable, hlines, dropEmptyLast_concat, List.map_append, List.append_assoc]
  exact .rule (List.append_nil source).symm hall

/-! ### Spans -/

lemma cells_ofRow (trimChars line : List Char) :
    (Span.ofRow line).cells trimChars = lineCells trimChars (String.ofList line) := by
  have hall : (Span.ofRow line).inner.filter (·.rule = .cell) =
      (splitOn '\t' line).map Span.ofCell := by
    simp [Span.ofRow, Span.ofCell]
  rw [Span.cells, hall, List.map_map, lineCells, Text.fieldsOn,
    String.toList_ofList, List.map_map]
  rfl

lemma rows_ofTable (trimChars text : List Char) :
    (Span.ofTable text).rows trimChars =
      (dropEmptyLast (splitLines text)).map fun line => lineCells trimChars (String.ofList line) := by
  have hall : (Span.ofTable text).inner.filter (·.rule = .row) =
      (dropEmptyLast (splitLines text)).map Span.ofRow := by
    simp [Span.ofTable, Span.ofRow]
  rw [Span.rows, hall, List.map_map]
  exact List.map_congr_left fun line _ => cells_ofRow trimChars line

/-- On every source the grammar has one outcome, the span of a table that takes all of it. Its rows
are the rows that are read: the fields of the lines of the source. -/
theorem parse_eq_rows_of_matches_table (source : String) (trimChars : List Char) :
    ∃ table : Span TableRule,
      (∀ outcome, Matches tableGrammar (dropMark source.toList) (rule .table)
        (dropMark source.toList) outcome ↔ outcome = some ([table], [])) ∧
      Source.parse source trimChars = table.rows trimChars ∧
      Source.parse source trimChars =
        (sourceLines source).map fun line => (RowFields.ofLine line trimChars).fields := by
  have hmatches := matches_table (dropMark source.toList)
  refine ⟨Span.ofTable (dropMark source.toList), fun outcome => ⟨fun h => ?_, ?_⟩, ?_, ?_⟩
  · exact matches_unique h hmatches
  · rintro rfl
    exact hmatches
  · rw [parse_eq_map_lineCells, rows_ofTable, sourceLines, List.map_map]
    rfl
  · exact parse_eq_map_lineCells source trimChars

end Proofs

end TypedTables
