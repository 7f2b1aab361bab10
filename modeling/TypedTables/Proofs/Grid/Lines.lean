import TypedTables.Grid
import TypedTables.Row.Fields
import TypedTables.Proofs.Text.Split

/-!
# Lines of a source

The scanner reads a source in one pass. Here it is compared with two passes: cutting the source
into lines, and each line into cells. Main statement: both give the same rows.
-/

namespace TypedTables.Proofs

open Text (splitOn splitLines dropEmptyLast dropMark stripChars)
open Source (closeCell scan)

/-- The lines of a source, without a byte order mark before the first. -/
def sourceLines (source : String) : List String :=
  (dropEmptyLast (splitLines (dropMark source.toList))).map String.ofList

/-- Neither separates cells nor ends a line. -/
def IsCellChar (c : Char) : Prop := c ≠ '\t' ∧ ¬(c = '\n' ∨ c = '\r')

/-- Pieces with more characters in front of the first. -/
def extendFirst (start : List Char) : List (List Char) → List (List Char)
  | [] => [start]
  | piece :: pieces => (start ++ piece) :: pieces

/-- The row that is finished by the rest of its line. -/
def finishRow (trimChars cell : List Char) (row : List String) (line : List Char) : List String :=
  row.reverse ++ (extendFirst cell.reverse (splitOn '\t' line)).map
    fun piece => stripChars trimChars (String.ofList piece)

/-- The rows of lines, the first of which continues a row. -/
def rowsOfLines (trimChars cell : List Char) (row : List String) :
    List (List Char) → List (List String)
  | [] => []
  | [line] =>
    if line.isEmpty && cell.isEmpty && row.isEmpty then [] else [finishRow trimChars cell row line]
  | line :: lines =>
    finishRow trimChars cell row line ::
      (dropEmptyLast lines).map fun line => lineCells trimChars (String.ofList line)

lemma extendFirst_nil (pieces : List (List Char)) (h : pieces ≠ []) :
    extendFirst [] pieces = pieces := by
  cases pieces with
  | nil => exact absurd rfl h
  | cons piece pieces => rfl

lemma finishRow_start (trimChars line : List Char) :
    finishRow trimChars [] [] line = lineCells trimChars (String.ofList line) := by
  rw [finishRow, List.reverse_nil, List.reverse_nil,
    extendFirst_nil _ (Text.splitOn_ne_nil '\t' line), lineCells, Text.fieldsOn,
    String.toList_ofList, List.map_map, List.nil_append]
  rfl

lemma finishRow_nil (trimChars cell : List Char) (row : List String) :
    finishRow trimChars cell row [] = (closeCell trimChars cell :: row).reverse := by
  simp [finishRow, splitOn, extendFirst, closeCell]

lemma finishRow_tab (trimChars cell : List Char) (row : List String) (line : List Char) :
    finishRow trimChars cell row ('\t' :: line) =
      finishRow trimChars [] (closeCell trimChars cell :: row) line := by
  rw [finishRow, finishRow, splitOn, if_pos rfl, List.reverse_nil,
    extendFirst_nil _ (Text.splitOn_ne_nil '\t' line)]
  simp [extendFirst, closeCell]

lemma finishRow_char (trimChars cell : List Char) (row : List String) {c : Char} (hc : c ≠ '\t')
    (line : List Char) :
    finishRow trimChars cell row (c :: line) = finishRow trimChars (c :: cell) row line := by
  obtain ⟨piece, pieces, hline, htext⟩ := splitOn_cons hc line
  rw [finishRow, finishRow, htext, hline]
  simp [extendFirst]

lemma rowsOfLines_start (trimChars : List Char) (lines : List (List Char)) :
    rowsOfLines trimChars [] [] lines =
      (dropEmptyLast lines).map fun line => lineCells trimChars (String.ofList line) := by
  match lines with
  | [] => rfl
  | [line] =>
    rw [rowsOfLines, finishRow_start]
    cases line <;> simp [dropEmptyLast]
  | line :: next :: lines =>
    rw [rowsOfLines, finishRow_start]
    · rw [dropEmptyLast, dropEmptyLast, List.getLast?_cons_cons, List.dropLast_cons_cons]
      split <;> simp
    · simp

lemma rowsOfLines_break (trimChars cell : List Char) (row : List String)
    {lines : List (List Char)} (h : lines ≠ []) :
    rowsOfLines trimChars cell row ([] :: lines) =
      (closeCell trimChars cell :: row).reverse :: rowsOfLines trimChars [] [] lines := by
  cases lines with
  | nil => exact absurd rfl h
  | cons line lines =>
    rw [rowsOfLines_start, rowsOfLines, finishRow_nil]
    simp

lemma rowsOfLines_tab (trimChars cell : List Char) (row : List String) (line : List Char)
    (lines : List (List Char)) :
    rowsOfLines trimChars cell row (('\t' :: line) :: lines) =
      rowsOfLines trimChars [] (closeCell trimChars cell :: row) (line :: lines) := by
  cases lines with
  | nil => simp [rowsOfLines, finishRow_tab]
  | cons next lines => simp [rowsOfLines, finishRow_tab]

lemma rowsOfLines_char (trimChars cell : List Char) (row : List String) {c : Char} (hc : c ≠ '\t')
    (line : List Char) (lines : List (List Char)) :
    rowsOfLines trimChars cell row ((c :: line) :: lines) =
      rowsOfLines trimChars (c :: cell) row (line :: lines) := by
  cases lines with
  | nil => simp [rowsOfLines, finishRow_char trimChars cell row hc]
  | cons next lines => simp [rowsOfLines, finishRow_char trimChars cell row hc]

/-- Scanning gives the rows of the lines, whatever part of a row has been read before. -/
lemma scan_eq_rowsOfLines (trimChars cell : List Char) (row : List String) (text : List Char) :
    scan trimChars cell row text = rowsOfLines trimChars cell row (splitLines text) := by
  fun_induction scan trimChars cell row text with
  | case1 cell row h => simp_all [splitLines, rowsOfLines]
  | case2 cell row h =>
    rw [splitLines, rowsOfLines, finishRow_nil]
    simp_all
  | case3 cell row rest ih =>
    obtain ⟨line, lines, hrest, htext⟩ := splitLines_cons (c := '\t') (by simp) rest
    rw [ih, hrest, htext, rowsOfLines_tab]
  | case4 cell row rest ih =>
    rw [ih, splitLines, rowsOfLines_break _ _ _ (splitLines_ne_nil rest)]
  | case5 cell row c rest htab hbreak hc ih =>
    rw [ih, splitLines, if_pos hc, rowsOfLines_break _ _ _ (splitLines_ne_nil rest)]
    exact hbreak
  | case6 cell row c rest htab hbreak hc ih =>
    obtain ⟨line, lines, hrest, htext⟩ := splitLines_cons hc rest
    rw [ih, hrest, htext, rowsOfLines_char _ _ _ htab]

lemma dropMark_sublist (text : List Char) : (dropMark text).Sublist text := by
  unfold dropMark
  split
  · exact List.sublist_cons_self _ _
  · exact List.Sublist.refl _

lemma dropMark_append {line behind : List Char} (h : behind.head? ≠ some '\ufeff') :
    dropMark (line ++ behind) = dropMark line ++ behind := by
  cases line with
  | nil =>
    rw [List.nil_append]
    unfold dropMark
    split
    · next heq => simp at h
    · rfl
  | cons c line =>
    by_cases hc : c = '\ufeff'
    · rw [hc]
      rfl
    · simp [dropMark, hc]

lemma sublist_of_mem_sourceLines {source line : String} (h : line ∈ sourceLines source) :
    line.toList.Sublist source.toList := by
  obtain ⟨chars, hchars, rfl⟩ := List.mem_map.mp h
  rw [String.toList_ofList]
  have hmem : chars ∈ splitLines (dropMark source.toList) := by
    unfold dropEmptyLast at hchars
    split at hchars
    · exact List.mem_of_mem_dropLast hchars
    · exact hchars
  exact (sublist_of_mem_splitLines hmem).trans (dropMark_sublist _)

theorem parse_eq_map_lineCells (source : String) (trimChars : List Char) :
    Source.parse source trimChars = (sourceLines source).map (lineCells trimChars) := by
  rw [Source.parse, scan_eq_rowsOfLines, rowsOfLines_start, sourceLines, List.map_map]
  rfl

end TypedTables.Proofs
