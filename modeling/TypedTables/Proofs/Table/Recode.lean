import TypedTables.Proofs.ColumnType.Least
import TypedTables.Proofs.Table.RoundTrip

/-!
# Writing again what was read

The rows that are read from bytes can be written again. What is written is never longer than what
was read, is read as the same rows, and is the same where every scalar in the bytes was in its least
form, as in the bytes of a table.
-/

namespace TypedTables

/-- The scalars of a record, in the order of their bytes. -/
def Schema.scalars (s : Schema) : List Builtin := ColumnType.scalarsEach (s.fields.map Field.type)

/-- The bytes of rows: each value in the form of the type of its field. -/
def Schema.encode (s : Schema) (rows : List (List Value)) : Except CellFault (List UInt8) := do
  return (← rows.mapM (ColumnType.encodeEach (s.fields.map Field.type))).flatten

namespace Proofs

variable {s : Schema} {bytes : List UInt8} {rows : List (List Value)}

/-- What writing rows again comes to, which were read from bytes. -/
structure Recodes (s : Schema) (bytes : List UInt8) (rows : List (List Value))
    (again : List UInt8) : Prop where
  encode : s.encode rows = .ok again
  length_le : again.length ≤ bytes.length
  decode : s.decode again = .ok rows
  exists_cut : ∃ pieces, IsCut (List.replicate rows.length s.scalars).flatten bytes pieces
  eq_iff : ∀ pieces, IsCut (List.replicate rows.length s.scalars).flatten bytes pieces →
    (again = bytes ↔ ∀ piece ∈ pieces, IsLeast piece.1 piece.2)
  eq_of_table : ∀ grid layout types t, DataTable.ofGrid grid layout types = .ok t →
    t.schema = .ok s → t.encodeRows = .ok bytes → HasShortCells t → again = bytes

/-- What is taken for a record: it is read as the same row whatever follows it, and the row can be
written again, in a form that is no longer. -/
def IsRecord (s : Schema) (row : List Value) (record : List UInt8) : Prop :=
  Reads s.readRow record row ∧ ∃ again,
    ColumnType.encodeEach (s.fields.map Field.type) row = .ok again ∧
      Reads s.readRow again row ∧ Shortens s.scalars record again

lemma readRow_eq_readEach (s : Schema) :
    s.readRow = ColumnType.readEach (s.fields.map Field.type) :=
  readEach_map s.fields

lemma ReadClosed.readRow {P : ∀ α : Type, Read α → Prop} (h : ReadClosed P) (s : Schema) :
    P (List Value) s.readRow := by
  rw [readRow_eq_readEach]
  exact h.readEach _

lemma takes_readRow (s : Schema) : Takes s.readRow (IsRecord s) := by
  unfold IsRecord
  rw [readRow_eq_readEach]
  refine takes_mono (takes_and (isLocal_closed.readEach _) (takes_and (takes_readEach _)
    (shortens_readEach _))) ?_
  rintro row record ⟨hlocal, ⟨again, hlength, hencode, -, hshort⟩, hshortens⟩
  exact ⟨hlocal, again, hencode, reads_encodeEach hencode hlength hshort,
    hshortens again hencode⟩

lemma readNumberedRow_eq_ok {k : Nat} {r next : Reader} {row : List Value} :
    s.readNumberedRow k r = .ok row next ↔ s.readRow r = .ok row next := by
  unfold Schema.readNumberedRow
  split
  · next h => simp [h]
  · rfl

lemma takes_readNumberedRow (s : Schema) (k : Nat) :
    Takes (s.readNumberedRow k) (IsRecord s) :=
  fun r row next h => takes_readRow s r row next (readNumberedRow_eq_ok.mp h)

lemma again_ne_nil {row : List Value} {record again : List UInt8} (hne : record ≠ [])
    (h : Reads s.readRow record row) (hagain : Reads s.readRow again row) : again ≠ [] := by
  rintro rfl
  -- Nothing would be read as the row, and then the record takes nothing either.
  have hsame : [] ++ record = record ++ [] := by simp
  exact hne (reads_unique hagain h hsame).1.symm

lemma exists_again {records : List (List UInt8)}
    (h : List.Forall₂ (fun row record => record ≠ [] ∧ IsRecord s row record) rows records) :
    ∃ agains, rows.mapM (ColumnType.encodeEach (s.fields.map Field.type)) = .ok agains ∧
      List.Forall₂ (fun again row => again ≠ [] ∧ ∀ k, Reads (s.readNumberedRow k) again row)
        agains rows ∧
      Shortens (List.replicate rows.length s.scalars).flatten records.flatten agains.flatten := by
  induction h with
  | nil => exact ⟨[], rfl, .nil, shortens_nil⟩
  | @cons row record rows records hfirst _ ih =>
    obtain ⟨hne, hread, again, hencode, hagain, hshortens⟩ := hfirst
    obtain ⟨agains, hagains, hreads, hrest⟩ := ih
    refine ⟨again :: agains, mapM_eq_ok.mpr (.cons hencode (mapM_eq_ok.mp hagains)),
      .cons ⟨again_ne_nil hne hread hagain, reads_numberedRow hagain⟩ hreads, ?_⟩
    exact shortens_append hshortens hrest

lemma encode_of_table {grid : Grid} {layout : DataTableLayout} {types : Registry} {t : DataTable}
    (h : DataTable.ofGrid grid layout types = .ok t) (hs : t.schema = .ok s)
    (hbytes : t.encodeRows = .ok bytes) (hshort : HasShortCells t) (hrows : s.decode bytes = .ok rows) :
    s.encode rows = .ok bytes := by
  obtain ⟨s', content, value, piece, hs', hcontent, hwritten, rfl⟩ := exists_written hbytes
  obtain rfl := Except.ok.inj (hs.symm.trans hs')
  obtain ⟨key, -, hkey, -, -, hint⟩ := exists_key (accepted_of_ofGrid h) hs
  obtain rfl := Except.ok.inj
    ((decode_written hs hcontent hwritten hshort hkey hint).symm.trans hrows)
  unfold Schema.encode
  refine bind_eq_ok.mpr ⟨content.map fun r => s.fields.flatMap (piece r), ?_, ?_⟩
  · rw [mapM_eq_ok, List.forall₂_map_left_iff, List.forall₂_map_right_iff]
    exact List.forall₂_same.mpr fun r hr => encodeEach_map (hwritten.encode r hr)
  · rw [List.flatMap_def]
    rfl

/-- The rows that are read from any bytes can be written again. What is written is read as the same
rows and is no longer than the bytes; it is the same exactly if every number and every length in them
takes no group too many and every truth value is zero or one, as in the bytes of a table. -/
theorem recodes_of_decode (h : s.decode bytes = .ok rows) : ∃ again, Recodes s bytes rows again := by
  obtain ⟨records, hflatten, hrecords⟩ := exists_records_ne_nil (takes_readNumberedRow s) h
  obtain rfl : bytes = records.flatten := hflatten
  obtain ⟨agains, hagains, hreads, hlength, pieces, hcut, heq⟩ := exists_again hrecords
  have hencode : s.encode rows = .ok agains.flatten := bind_eq_ok.mpr ⟨agains, hagains, rfl⟩
  refine ⟨agains.flatten, hencode, hlength, readRowsFrom_flatten hreads 0 0, ⟨pieces, hcut⟩, ?_, ?_⟩
  · intro pieces' hcut'
    rw [isCut_unique hcut' hcut]
    exact heq
  · intro grid layout types t ht hs hbytes hshort
    exact Except.ok.inj (hencode.symm.trans (encode_of_table ht hs hbytes hshort h))

/-- Records of a number, a truth value and a string. -/
def looseSchema : Schema where
  columnCount := 3
  fields := [⟨0, "Id", .id, .builtin .int32, "i32", ""⟩, ⟨1, "On", .data, .builtin .bool, "bool", ""⟩,
    ⟨2, "Name", .data, .builtin .string, "String", ""⟩]

/-- Two records: in the first the number and the length are padded, and true is not one. -/
def looseBytes : List UInt8 := [0x87, 0, 2, 0x81, 0, 65, 8, 1, 0]

example : (looseSchema.decode looseBytes).toOption.bind (fun rows =>
    (looseSchema.encode rows).toOption) = some [7, 1, 1, 65, 8, 1, 0] := by
  decide +kernel

theorem recodes_of_decode_loose : ∃ rows again, looseSchema.decode looseBytes = .ok rows ∧
    Recodes looseSchema looseBytes rows again := by
  have hrows : (looseSchema.decode looseBytes).toOption.isSome = true := by decide +kernel
  obtain ⟨rows, hrows⟩ := Option.isSome_iff_exists.mp hrows
  obtain ⟨again, hagain⟩ := recodes_of_decode (toOption_eq_some.mp hrows)
  exact ⟨rows, again, toOption_eq_some.mp hrows, hagain⟩

end Proofs

end TypedTables
