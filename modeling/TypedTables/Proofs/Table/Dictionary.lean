import TypedTables.Table.Artifact
import TypedTables.Proofs.Table.Fields
import Mathlib.Data.List.GetD

/-!
# Artifacts of dictionaries

What a dictionary says, read off its grid: the rows of content that are no comments, and of these
the cells in columns that are no comments. A dictionary that has been made can always be written,
and what is written is these texts.
-/

namespace TypedTables

/-- Whether a name marks its column as a comment. -/
def isCommentName (name : String) : Bool := name.isEmpty || name.toList.contains commentMark

/-- Whether cells are those of a comment row. -/
def isCommentLine (cells : List String) : Bool := (cells.headD "").toList.head? == some commentMark

/-- The texts of a dictionary, row by row. -/
def Dictionary.contents (d : Dictionary) : List (List String) :=
  let names := d.grid.rows.getD d.layout.nameRow []
  ((d.grid.rows.drop d.layout.contentStartRow).filter fun cells => !isCommentLine cells).map
    fun cells => ((names.zip cells).filter fun (name, _) => !isCommentName name).map Prod.snd

namespace Proofs

variable {grid : Grid} {layout : DictionaryLayout} {d : Dictionary}

/-- What is known of a dictionary that could be made. -/
lemma ofGrid_eq_ok (h : Dictionary.ofGrid grid layout = .ok d) :
    d = ⟨grid, layout⟩ ∧ layout.nameRow < grid.rowCount ∧ layout.contentStartRow ≤ grid.rowCount := by
  unfold Dictionary.ofGrid at h
  obtain ⟨_, hname, h⟩ := bind_eq_ok.mp h
  obtain ⟨_, hstart, h⟩ := bind_eq_ok.mp h
  refine ⟨(pure_eq_ok.mp h).symm, checkHeaderRow_eq_ok.mp hname, ?_⟩
  unfold Grid.checkContentStart at hstart
  by_contra hgt
  simp [hgt] at hstart

/-! ### Cells by their places -/

lemma cell_eq_getD {g : Grid} {r c : Nat} (hr : r < g.rowCount) (hc : c < g.columnCount) :
    g.cell r c = .ok ((g.rows.getD r []).getD c "") := by
  obtain ⟨text, htext⟩ := exists_cell hr hc
  obtain ⟨cells, hcells, hcell⟩ := cell_eq_ok.mp htext
  rw [htext, List.getD_eq_getElem?_getD, List.getD_eq_getElem?_getD, hcells, Option.getD_some, hcell,
    Option.getD_some]

lemma length_row {g : Grid} {r : Nat} (hr : r < g.rowCount) :
    (g.rows.getD r []).length = g.columnCount := by
  rw [List.getD_eq_getElem _ _ hr]
  exact g.rectangular _ (List.getElem_mem hr)

lemma isCommentRow_eq {s : Sheet} {r : Nat} (hr : r < s.rowCount) :
    s.isCommentRow r = .ok (isCommentLine (s.grid.rows.getD r [])) := by
  have hrow : s.grid.rows[r]? = some (s.grid.rows.getD r []) := by
    rw [List.getD_eq_getElem _ _ hr, List.getElem?_eq_getElem hr]
  unfold Sheet.isCommentRow Grid.row
  rw [hrow]
  rfl

lemma isCommentColumn_eq {s : Sheet} {c : Nat} (hname : s.nameRow < s.rowCount)
    (hc : c < s.columnCount) :
    s.isCommentColumn c = .ok (isCommentName ((s.grid.rows.getD s.nameRow []).getD c "")) :=
  bind_eq_ok.mpr ⟨_, cell_eq_getD hname hc, rfl⟩

lemma contentRows_eq {s : Sheet} (h : s.contentStart ≤ s.rowCount) :
    s.contentRows = .ok ((List.range' s.contentStart (s.rowCount - s.contentStart)).filter fun r =>
      !isCommentLine (s.grid.rows.getD r [])) := by
  have hfrom : ∀ r left, r + left ≤ s.rowCount → s.contentRowsFrom r left =
      .ok ((List.range' r left).filter fun r => !isCommentLine (s.grid.rows.getD r [])) := by
    intro r left hleft
    induction left generalizing r with
    | zero => rfl
    | succ left ih =>
      have hrow := isCommentRow_eq (s := s) (r := r) (by omega)
      refine bind_eq_ok.mpr ⟨_, hrow, bind_eq_ok.mpr ⟨_, ih (r + 1) (by omega), ?_⟩⟩
      rw [List.range'_succ, List.filter_cons]
      cases isCommentLine (s.grid.rows.getD r []) <;> rfl
  exact hfrom _ _ (by omega)

/-! ### Rows and columns of a dictionary -/

/-- The columns that are no comments. -/
def namedColumns (d : Dictionary) : List Nat :=
  (List.range d.grid.columnCount).filter fun c =>
    !isCommentName ((d.grid.rows.getD d.layout.nameRow []).getD c "")

/-- The rows of content that are no comments. -/
def textRows (d : Dictionary) : List Nat :=
  (List.range' d.layout.contentStartRow (d.grid.rowCount - d.layout.contentStartRow)).filter
    fun r => !isCommentLine (d.grid.rows.getD r [])

lemma lt_of_mem_textRows {r : Nat} (hr : r ∈ textRows d) : r < d.grid.rowCount := by
  have hrange := List.mem_range'_1.mp (List.mem_filter.mp hr).1
  omega

lemma columns_eq (hname : d.layout.nameRow < d.grid.rowCount) :
    d.columns = .ok (namedColumns d) := by
  apply filterM_eq_filter
  intro c hc
  exact bind_eq_ok.mpr ⟨_, isCommentColumn_eq hname (List.mem_range.mp hc), rfl⟩

lemma width_eq (hname : d.layout.nameRow < d.grid.rowCount) :
    d.width = .ok (namedColumns d).length := by
  have hcount := foldlM_count (fun c hc =>
    isCommentColumn_eq (s := d.sheet) hname (List.mem_range.mp hc)) 0
  rwa [Nat.zero_add] at hcount

/-- The cells of named columns are those that stand below their names. -/
lemma map_getD_filter {names cells : List String} {count : Nat} (hnames : names.length = count)
    (hcells : cells.length = count) :
    ((List.range count).filter fun c => !isCommentName (names.getD c "")).map (cells.getD · "") =
      ((names.zip cells).filter fun (name, _) => !isCommentName name).map Prod.snd := by
  have hzip : names.zip cells = (List.range count).map fun c => (names.getD c "", cells.getD c "") := by
    apply List.ext_getElem
    · simp [hnames, hcells]
    · intro c hc _
      rw [List.length_zip, hnames, hcells, Nat.min_self] at hc
      simp [hnames, hcells, hc]
  rw [hzip, List.filter_map, List.map_map]
  rfl

lemma contents_eq (hname : d.layout.nameRow < d.grid.rowCount) : d.contents =
    (textRows d).map fun r => (namedColumns d).map fun c => (d.grid.rows.getD r []).getD c "" := by
  have hrows : d.grid.rows.drop d.layout.contentStartRow =
      (List.range' d.layout.contentStartRow (d.grid.rowCount - d.layout.contentStartRow)).map
        fun r => d.grid.rows.getD r [] := by
    apply List.ext_getElem
    · simp [Grid.rowCount]
    · intro i hi _
      rw [List.length_drop] at hi
      simp [Nat.add_lt_of_lt_sub' hi]
  have hrecord : ∀ r ∈ textRows d,
      (((d.grid.rows.getD d.layout.nameRow []).zip (d.grid.rows.getD r [])).filter
        fun (name, _) => !isCommentName name).map Prod.snd =
          (namedColumns d).map fun c => (d.grid.rows.getD r []).getD c "" := by
    intro r hr
    exact (map_getD_filter (length_row hname) (length_row (lt_of_mem_textRows hr))).symm
  unfold Dictionary.contents
  dsimp only
  rw [hrows, List.filter_map, List.map_map]
  exact List.map_congr_left hrecord

/-- What is written for a dictionary: its texts, one after the other. -/
theorem encodeRows_eq (h : Dictionary.ofGrid grid layout = .ok d) :
    d.encodeRows = .ok (d.contents.map fun texts => texts.flatMap Wire.encode).flatten := by
  obtain ⟨rfl, hname, hstart⟩ := ofGrid_eq_ok h
  set d : Dictionary := ⟨grid, layout⟩
  have hcells : ∀ r ∈ textRows d, ∀ c ∈ namedColumns d, (do
      return Wire.encode (← d.sheet.value r c) : Except TableError (List UInt8)) =
        .ok (Wire.encode ((d.grid.rows.getD r []).getD c "")) := by
    intro r hr c hc
    have hcolumn := List.mem_range.mp (List.mem_filter.mp hc).1
    exact bind_eq_ok.mpr ⟨_, cell_eq_getD (lt_of_mem_textRows hr) hcolumn, rfl⟩
  have hrecords : ∀ r ∈ textRows d, (do
      return (← (namedColumns d).mapM fun c => do
        return Wire.encode (← d.sheet.value r c)).flatten : Except TableError (List UInt8)) =
          .ok (((namedColumns d).map fun c => (d.grid.rows.getD r []).getD c "").flatMap Wire.encode) := by
    intro r hr
    refine bind_eq_ok.mpr ⟨_, mapM_eq_map (hcells r hr), ?_⟩
    rw [List.flatMap_map]
    rfl
  refine bind_eq_ok.mpr ⟨_, columns_eq hname, bind_eq_ok.mpr ⟨_, contentRows_eq hstart,
    bind_eq_ok.mpr ⟨_, mapM_eq_map hrecords, ?_⟩⟩⟩
  rw [contents_eq hname, List.map_map]
  rfl

/-- Writing a dictionary never fails. -/
theorem exists_encodeRows (h : Dictionary.ofGrid grid layout = .ok d) :
    ∃ bytes, d.encodeRows = .ok bytes :=
  ⟨_, encodeRows_eq h⟩

end Proofs

end TypedTables
