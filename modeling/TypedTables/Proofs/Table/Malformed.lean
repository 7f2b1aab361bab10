import TypedTables.Proofs.ColumnType.Shape
import TypedTables.Proofs.Table.Parts
import TypedTables.Proofs.Table.Progress

/-!
# Where bytes are malformed

Bytes that cannot be decoded hold records up to some place, and the record that begins there cannot be
read. The error names this place and the number of this record, unless the bytes only end too early.
-/

namespace TypedTables.Proofs

variable {s : Schema} {bytes : List UInt8} {e : RowError}

/-- Whether an error is one of bytes: too few of them, or ones that are malformed. -/
def IsOfBytes (e : RowError) : Prop := e = .endOfInput ∨ ∃ cause, e = .malformed cause

lemma raises_closed : ReadClosed fun _ m => Raises m IsOfBytes := by
  have hmalformed (cause : Malformation) : IsOfBytes (.malformed cause) := .inr ⟨cause, rfl⟩
  exact {
    pure := raises_pure
    bind := raises_bind
    byte := raises_byte (.inl rfl)
    bytes := fun n => raises_bytes n (.inl rfl)
    text := fun n => raises_text n hmalformed
    integerOverflow := fun _ => raises_malformed fun _ => hmalformed _
    tooManyGroups := fun _ => raises_malformed fun _ => hmalformed _ }

lemma readNumberedRow_eq_error {k : Nat} {r next : Reader}
    (h : s.readNumberedRow k r = .error e next) :
    (∃ cause, s.readRow r = .error (.malformed cause) next ∧
      e = .malformed (.inRecord k r.position cause)) ∨
    s.readRow r = .error .endOfInput next ∧ e = .endOfInput := by
  unfold Schema.readNumberedRow at h
  cases hread : s.readRow r with
  | ok row last =>
    rw [hread] at h
    cases h
  | error e' last =>
    rw [hread] at h
    obtain rfl | ⟨cause, rfl⟩ := raises_closed.readRow s r e' last hread
    · obtain ⟨rfl, rfl⟩ := EStateM.Result.error.inj h
      exact .inr ⟨rfl, rfl⟩
    · obtain ⟨rfl, rfl⟩ := EStateM.Result.error.inj h
      exact .inl ⟨cause, rfl, rfl⟩

/-- Where and why bytes cannot be decoded: up to the place they are as many records as are counted,
and at the place is the first record that cannot be read. -/
structure StopsAt (s : Schema) (bytes : List UInt8) (place count : Nat) (e : RowError) : Prop where
  front : ∃ rows, s.decode (bytes.take place) = .ok rows ∧ rows.length = count
  boundary : IsBoundary s.readRow bytes place
  fails : ∃ next, s.readRow (.at bytes place) = .error e next
  first : ∀ n < place, IsBoundary s.readRow bytes n →
    ∃ row next, s.readRow (.at bytes n) = .ok row next

lemma exists_read_of_decode {rows : List (List Value)} (h : s.decode bytes = .ok rows)
    (hne : bytes ≠ []) (position : Nat) (behind : List UInt8) :
    ∃ row next, s.readRow ⟨position, bytes ++ behind⟩ = .ok row next := by
  obtain ⟨records, rfl, hrecords⟩ := decode_eq_ok_iff.mp h
  cases hrecords with
  | nil => exact absurd rfl hne
  | @cons row record rows records hfirst _ =>
    rw [List.flatten_cons, List.append_assoc]
    exact ⟨row, _, hfirst.2 position (records.flatten ++ behind)⟩

lemma exists_read_of_boundary {front rest : List UInt8} {rows : List (List Value)} {n : Nat}
    (hfront : s.decode front = .ok rows) (hn : n < front.length)
    (h : IsBoundary s.readRow (front ++ rest) n) :
    ∃ row next, s.readRow (.at (front ++ rest) n) = .ok row next := by
  have hlength : (front.take n).length = n := List.length_take_of_le hn.le
  have hcut : front ++ rest = front.take n ++ (front.drop n ++ rest) := by
    rw [← List.append_assoc, List.take_append_drop]
  -- what lies before the boundary are records, so the records of the front go on behind it
  obtain ⟨before, hbefore⟩ : ∃ before, s.decode (front.take n) = .ok before := by
    rw [exists_decode_iff_isBoundary _ (front.drop n ++ rest), ← hcut, hlength]
    exact h
  have hwhole := decode_append hbefore (front.drop n)
  rw [List.take_append_drop, hfront] at hwhole
  obtain ⟨others, hothers, -⟩ := map_eq_ok.mp hwhole.symm
  have hne : front.drop n ≠ [] := by
    intro hnil
    have hdrop := congrArg List.length hnil
    rw [List.length_drop, List.length_nil] at hdrop
    omega
  have hat : Reader.at (front ++ rest) n = ⟨n, front.drop n ++ rest⟩ := by
    rw [Reader.at, List.drop_append_of_le_length hn.le]
  rw [hat]
  exact exists_read_of_decode (mapError_eq_ok.mp hothers) hne n rest

lemma exists_stop (h : s.TakesBytes) (hdecode : s.decode bytes = .error e) :
    ∃ place count next, s.readNumberedRow count (.at bytes place) = .error e next ∧
      ∀ cause, s.readRow (.at bytes place) = .error cause next → StopsAt s bytes place count cause := by
  obtain ⟨rows, records, rest, hbytes, hrecords, next, hnext⟩ :=
    exists_records_of_error (takes_numberedRow_ne_nil h) hdecode
  obtain rfl : bytes = records.flatten ++ rest := hbytes
  have hfront : s.decode records.flatten = .ok rows := decode_eq_ok_iff.mpr ⟨records, rfl, hrecords⟩
  have hat : Reader.at (records.flatten ++ rest) records.flatten.length =
      ⟨records.flatten.length, rest⟩ := by
    rw [Reader.at, List.drop_left]
  refine ⟨records.flatten.length, rows.length, next, ?_, fun cause hcause => ?_⟩
  · rw [hat]
    simpa [Reader.ofBytes] using hnext
  · refine ⟨⟨rows, ?_, rfl⟩, isBoundary_flatten hrecords [] rest .start, ⟨next, hcause⟩, ?_⟩
    · rwa [List.take_left]
    · intro n hn hboundary
      exact exists_read_of_boundary hfront hn hboundary

/-- Bytes that cannot be decoded stop at their first record that cannot be read. If it is malformed,
the message has its number, its place and what is wrong with it. -/
theorem stopsAt_of_decode (h : s.TakesBytes) (hdecode : s.decode bytes = .error e) :
    (∃ record start cause, e = .malformed (.inRecord record start cause) ∧
      e.message = s!"Malformed: record {record} at byte {start}: {cause.message}" ∧
      StopsAt s bytes start record (.malformed cause)) ∨
    e = .endOfInput ∧ ∃ start count, StopsAt s bytes start count .endOfInput := by
  obtain ⟨place, count, next, hnext, hstops⟩ := exists_stop h hdecode
  obtain ⟨cause, hread, rfl⟩ | ⟨hread, rfl⟩ := readNumberedRow_eq_error hnext
  · exact .inl ⟨count, place, cause, rfl, rfl, hstops _ hread⟩
  · exact .inr ⟨rfl, place, count, hstops _ hread⟩

/-- The string of the second record is longer than what is left. -/
def cutBytes : List UInt8 := [7, 1, 1, 65, 8, 0, 9, 66]

theorem stopsAt_of_decode_loose : ∃ e, looseSchema.decode cutBytes = .error e ∧
    e.message = "Malformed: record 1 at byte 4: string length exceeds remaining bytes at byte 7" ∧
    looseSchema.TakesBytes ∧
    ((∃ record start cause, e = .malformed (.inRecord record start cause) ∧
      e.message = s!"Malformed: record {record} at byte {start}: {cause.message}" ∧
      StopsAt looseSchema cutBytes start record (.malformed cause)) ∨
    e = .endOfInput ∧ ∃ start count, StopsAt looseSchema cutBytes start count .endOfInput) := by
  have hmessage : ((looseSchema.decode cutBytes).map List.length).mapError RowError.message = .error
      "Malformed: record 1 at byte 4: string length exceeds remaining bytes at byte 7" := by
    decide +kernel
  obtain ⟨e, hlength, htext⟩ := mapError_eq_error.mp hmessage
  have hdecode := map_eq_error.mp hlength
  exact ⟨e, hdecode, htext, takesBytes_loose, stopsAt_of_decode takesBytes_loose hdecode⟩

end TypedTables.Proofs
