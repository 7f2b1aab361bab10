import TypedTables.Proofs.Record.Boundary
import TypedTables.Proofs.Table.Recode

/-!
# Parts of the bytes of a table

Bytes that are records may stand in front of any others: the rows of both are read, or what is wrong
with the others is found. A part of them that is cut off at the front is records again only where the
cut lies between two of them; anywhere else it is refused, and never read as a row of its own.
-/

namespace TypedTables.Proofs

variable {s : Schema} {bytes : List UInt8} {rows : List (List Value)}

lemma isLocal_readNumberedRow (s : Schema) (k : Nat) : IsLocal (s.readNumberedRow k) := by
  intro r row next h
  obtain ⟨taken, hrest, hposition, hreads⟩ :=
    isLocal_closed.readRow s r row next (readNumberedRow_eq_ok.mp h)
  exact ⟨taken, hrest, hposition, reads_numberedRow hreads k⟩

/-- A record further on is read alike, but for the number and the place that are named if it is
malformed. -/
lemma readNumberedRow_moved (s : Schema) (records bytes k : Nat) (r : Reader) :
    s.readNumberedRow (k + records) (r.moved bytes) =
      movedResult records bytes (s.readNumberedRow k r) := by
  unfold Schema.readNumberedRow
  rw [isRelative_closed.readRow s r bytes]
  cases s.readRow r with
  | ok row next => rfl
  | error e next => cases e <;> rfl

/-- Bytes behind those that have been read are read as if they stood alone. -/
lemma decode_append (h : s.decode bytes = .ok rows) (rest : List UInt8) :
    s.decode (bytes ++ rest) =
      ((s.decode rest).mapError (RowError.moved rows.length bytes.length)).map (rows ++ ·) := by
  have hmoved := readRowsFrom_moved (readNumberedRow_moved s rows.length bytes.length) 0
    (.ofBytes rest)
  unfold Schema.decode
  rw [← hmoved]
  exact readRowsFrom_append (isLocal_readNumberedRow s) h rest

lemma decode_eq_ok_iff : s.decode bytes = .ok rows ↔ ∃ records, bytes = records.flatten ∧
    List.Forall₂ (fun row record => record ≠ [] ∧ Reads s.readRow record row) rows records := by
  constructor
  · intro h
    obtain ⟨records, hflatten, hrecords⟩ := exists_records_ne_nil (takes_readNumberedRow s) h
    exact ⟨records, hflatten, hrecords.imp fun _ _ hrecord => ⟨hrecord.1, hrecord.2.1⟩⟩
  · rintro ⟨records, rfl, hrecords⟩
    have hnumbered := hrecords.imp fun _ _ hrecord => And.imp_right reads_numberedRow hrecord
    exact readRowsFrom_flatten hnumbered.flip 0 0

/-- What stands at the front of bytes can be read exactly if it ends where a record ends. -/
theorem exists_decode_iff_isBoundary (front rest : List UInt8) :
    (∃ found, s.decode front = .ok found) ↔ IsBoundary s.readRow (front ++ rest) front.length := by
  constructor
  · rintro ⟨found, hfound⟩
    obtain ⟨records, rfl, hrecords⟩ := decode_eq_ok_iff.mp hfound
    exact isBoundary_flatten hrecords [] rest .start
  · intro h
    obtain ⟨found, records, behind, hbytes, hlength, hrecords⟩ :=
      exists_records_of_isBoundary (isLocal_closed.readRow s) h
    obtain ⟨rfl, -⟩ := List.append_inj hbytes hlength.symm
    exact ⟨found, decode_eq_ok_iff.mpr ⟨records, rfl, hrecords⟩⟩

/-- How bytes that are read as rows are read with others behind them, and how their parts are. -/
structure Splits (s : Schema) (bytes : List UInt8) (rows : List (List Value)) : Prop where
  append_ok : ∀ rest rows', s.decode rest = .ok rows' → s.decode (bytes ++ rest) = .ok (rows ++ rows')
  append_error : ∀ rest e, s.decode rest = .error e → ∃ e', s.decode (bytes ++ rest) = .error e' ∧
    e'.ctorIdx = e.ctorIdx ∧ e' = e.moved rows.length bytes.length
  front_iff : ∀ front, front <+: bytes →
    ((∃ found, s.decode front = .ok found) ↔ IsBoundary s.readRow bytes front.length)
  front_rows : ∀ front found, front <+: bytes → s.decode front = .ok found → found <+: rows

/-- Rows can be read on behind rows, and the bytes of rows can be cut between two of them only. -/
theorem splits_of_decode (h : s.decode bytes = .ok rows) : Splits s bytes rows where
  append_ok rest rows' hrest := by
    rw [decode_append h, hrest]
    rfl
  append_error rest e hrest := by
    refine ⟨e.moved rows.length bytes.length, ?_, ctorIdx_moved _ _ e, rfl⟩
    rw [decode_append h, hrest]
    rfl
  front_iff := by
    rintro front ⟨rest, rfl⟩
    exact exists_decode_iff_isBoundary front rest
  front_rows := by
    rintro front found ⟨rest, rfl⟩ hfront
    rw [decode_append hfront] at h
    obtain ⟨others, -, rfl⟩ := map_eq_ok.mp h
    exact List.prefix_append found others

example : (List.range 10).filter (fun n => (looseSchema.decode (looseBytes.take n)).toOption.isSome) =
    [0, 6, 9] := by
  decide +kernel

theorem splits_of_decode_loose : ∃ rows, looseSchema.decode looseBytes = .ok rows ∧
    Splits looseSchema looseBytes rows := by
  have hrows : (looseSchema.decode looseBytes).toOption.isSome = true := by decide +kernel
  obtain ⟨rows, hrows⟩ := Option.isSome_iff_exists.mp hrows
  exact ⟨rows, toOption_eq_some.mp hrows, splits_of_decode (toOption_eq_some.mp hrows)⟩

end TypedTables.Proofs
