import TypedTables.Proofs.ColumnType.Cell
import TypedTables.Proofs.Record.Rows
import TypedTables.Proofs.Table.Dictionary

/-!
# From texts to bytes and back

The bytes of a dictionary hold no marks between rows. They are read back as the rows that they were
made of, given how many texts a row has, and that is the number of columns that are no comments.
-/

namespace TypedTables.Proofs

variable {grid : Grid} {layout : DictionaryLayout} {d : Dictionary}

lemma reads_readStrings {texts : List String} (h : ∀ text ∈ texts, IsShort text) :
    Reads (Dictionary.readStrings texts.length) (texts.flatMap Wire.encode) texts := by
  induction texts with
  | nil => exact reads_pure []
  | cons text texts ih =>
    obtain ⟨hfirst, hrest⟩ := List.forall_mem_cons.mp h
    rw [List.length_cons, Dictionary.readStrings, List.flatMap_cons]
    have hbehind := reads_bind (ih hrest) (f := fun rest => pure (text :: rest)) (reads_pure _)
    rw [List.append_nil] at hbehind
    exact reads_bind (reads_string hfirst) hbehind

lemma flatMap_encode_ne_nil {texts : List String} (h : texts ≠ []) :
    texts.flatMap Wire.encode ≠ [] := by
  obtain ⟨text, rest, rfl⟩ := List.exists_cons_of_ne_nil h
  rw [List.flatMap_cons]
  exact List.append_ne_nil_of_left_ne_nil (List.append_ne_nil_of_left_ne_nil (encode_ne_nil _) _) _

lemma decode_flatten {rows : List (List String)} {width : Nat} (hwidth : 0 < width)
    (hlength : ∀ texts ∈ rows, texts.length = width)
    (hshort : ∀ texts ∈ rows, ∀ text ∈ texts, IsShort text) :
    Dictionary.decode (rows.map fun texts => texts.flatMap Wire.encode).flatten width = .ok rows := by
  have hrecords : List.Forall₂ (fun bytes texts => bytes ≠ [] ∧
      ∀ _ : Nat, Reads (Dictionary.readStrings width) bytes texts)
      (rows.map fun texts => texts.flatMap Wire.encode) rows := by
    rw [List.forall₂_map_left_iff]
    refine List.forall₂_same.mpr fun texts htexts => ⟨?_, fun _ => ?_⟩
    · apply flatMap_encode_ne_nil
      rintro rfl
      have hzero := hlength [] htexts
      simp only [List.length_nil] at hzero
      omega
    · rw [← hlength texts htexts]
      exact reads_readStrings (hshort texts htexts)
  rw [Dictionary.decode, if_neg (by omega)]
  exact readRowsFrom_flatten hrecords 0 0

lemma length_of_mem_contents (hname : d.layout.nameRow < d.grid.rowCount) {texts : List String}
    (h : texts ∈ d.contents) : texts.length = (namedColumns d).length := by
  rw [contents_eq hname] at h
  obtain ⟨r, -, rfl⟩ := List.mem_map.mp h
  exact List.length_map _

/-- A dictionary with a column that is no comment can be written, and reading what was written, with
as many texts to a row as there are such columns, gives its texts, if none of them is too long. -/
theorem decode_dictionary (h : Dictionary.ofGrid grid layout = .ok d)
    (hcolumn : ∃ c < grid.columnCount, d.sheet.isCommentColumn c = .ok false)
    (hshort : ∀ texts ∈ d.contents, ∀ text ∈ texts, IsShort text) :
    ∃ bytes width, d.encodeRows = .ok bytes ∧ d.width = .ok width ∧
      Dictionary.decode bytes width = .ok d.contents := by
  have hbytes := encodeRows_eq h
  obtain ⟨rfl, hname, -⟩ := ofGrid_eq_ok h
  set d : Dictionary := ⟨grid, layout⟩
  have hpos : 0 < (namedColumns d).length := by
    obtain ⟨c, hc, hnamed⟩ := hcolumn
    rw [isCommentColumn_eq hname hc, Except.ok.injEq] at hnamed
    have hmem : c ∈ namedColumns d :=
      List.mem_filter.mpr ⟨List.mem_range.mpr hc, (Bool.not_eq_true' _).mpr hnamed⟩
    exact List.length_pos_of_mem hmem
  exact ⟨_, _, hbytes, width_eq hname,
    decode_flatten hpos (fun texts htexts => length_of_mem_contents hname htexts) hshort⟩

/-- Greetings in two rows, with a column and a row of comments, and one of the texts empty. -/
def greetings : Dictionary where
  grid :=
    { rows := [["Key", "#Note", "Value"], ["hello", "casual", "Grüße"], ["#old", "", "Hallo"],
        ["bye", "", ""]]
      rectangular := by decide }
  layout := {}

lemma contents_greetings : greetings.contents = [["hello", "Grüße"], ["bye", ""]] := by
  decide +kernel

theorem decode_dictionary_greetings : ∃ bytes width, greetings.encodeRows = .ok bytes ∧
    greetings.width = .ok width ∧
    Dictionary.decode bytes width = .ok [["hello", "Grüße"], ["bye", ""]] := by
  have hmade : Dictionary.ofGrid greetings.grid greetings.layout = .ok greetings := rfl
  have hcolumn : greetings.sheet.isCommentColumn 0 = .ok false := rfl
  have hshort : ∀ texts ∈ greetings.contents, ∀ text ∈ texts, IsShort text := by
    rw [contents_greetings]
    unfold IsShort
    decide +kernel
  rw [← contents_greetings]
  exact decode_dictionary hmade ⟨0, by decide, hcolumn⟩ hshort

end TypedTables.Proofs
