import TypedTables.Proofs.ColumnType.Progress
import TypedTables.Proofs.Record.Loop
import TypedTables.Proofs.Table.Recode

/-!
# Decoding ends

Nothing says how many records there are, so decoding ends only because every record moves the reader.
It does for all bytes if a field of the schema takes bytes, as the id field of every table does, and
for a schema without such a field there are bytes at which it would stay for ever.
-/

namespace TypedTables

/-- Whether every record of the schema takes bytes. -/
def Schema.TakesBytes (s : Schema) : Prop := ∃ f ∈ s.fields, f.type.TakesBytes

namespace Proofs

variable {s : Schema}

lemma takes_readRow_ne_nil (h : s.TakesBytes) : Takes s.readRow fun _ taken => taken ≠ [] := by
  obtain ⟨f, hf, htype⟩ := h
  rw [readRow_eq_readEach]
  exact takes_readEach_ne_nil (List.mem_map_of_mem hf) (takes_read_ne_nil htype)

lemma takes_numberedRow_ne_nil (h : s.TakesBytes) (k : Nat) : Takes (s.readNumberedRow k)
    fun row record => record ≠ [] ∧ Reads s.readRow record row := by
  intro r row next hread
  apply takes_and (takes_readRow_ne_nil h) (isLocal_closed.readRow s)
  exact readNumberedRow_eq_ok.mp hread

lemma progresses_readNumberedRow (h : s.TakesBytes) (k : Nat) : Progresses (s.readNumberedRow k) :=
  progresses_of_takes (takes_mono (takes_numberedRow_ne_nil h k) fun _ _ hrecord => hrecord.1)

lemma takesBytes_of_table {grid : Grid} {layout : DataTableLayout} {types : Registry} {t : DataTable}
    (h : DataTable.ofGrid grid layout types = .ok t) (hs : t.schema = .ok s) : s.TakesBytes := by
  obtain ⟨key, -, hmem, -, -, htype⟩ := exists_key (accepted_of_ofGrid h) hs
  exact ⟨key, hmem, htype ▸ .builtin .int32⟩

/-- A schema takes bytes exactly if the loop over its records ends on any bytes. -/
theorem takesBytes_iff_loopEnds : s.TakesBytes ↔
    ∀ bytes, ∃ result, LoopEnds s.readNumberedRow 0 (.ofBytes bytes) result := by
  constructor
  · intro h bytes
    have hends := runsOut_readRowsFrom (progresses_readNumberedRow h) 0 (.ofBytes bytes)
    cases hrows : readRowsFrom s.readNumberedRow 0 (.ofBytes bytes) with
    | ok rows =>
      rw [hrows] at hends
      exact ⟨_, hends.2⟩
    | error e =>
      rw [hrows] at hends
      obtain ⟨last, hlast⟩ := hends
      exact ⟨_, hlast⟩
  · intro h
    by_contra hnone
    have htypes : ∀ t ∈ s.fields.map Field.type, ¬t.TakesBytes := by
      rintro t ht htakes
      obtain ⟨f, hf, rfl⟩ := List.mem_map.mp ht
      exact hnone ⟨f, hf, htakes⟩
    obtain ⟨row, hrow⟩ := exists_readsEach_nil _ htypes
    rw [← readRow_eq_readEach] at hrow
    have hstuck : ∀ k, s.readNumberedRow k (.ofBytes [0]) = .ok row (.ofBytes [0]) := fun k =>
      readNumberedRow_eq_ok.mpr (hrow 0 [0])
    obtain ⟨result, hresult⟩ := h [0]
    exact not_loopEnds (List.cons_ne_nil _ _) (fun k => ⟨row, hstuck k⟩) 0 result hresult

lemma takes_readStrings (width : Nat) :
    Takes (Dictionary.readStrings width) fun _ taken => 0 < width → taken ≠ [] := by
  induction width with
  | zero => exact takes_mono (takes_pure []) fun _ _ _ h => absurd h (lt_irrefl 0)
  | succ width ih =>
    rw [Dictionary.readStrings]
    refine takes_mono (takes_bind takes_string fun text => takes_bind ih fun rest =>
      takes_pure (text :: rest)) ?_
    rintro texts taken ⟨text, first, behind, rfl, ⟨hcondenses, -⟩, -⟩ -
    have hencode : Wire.encode text ≠ [] :=
      List.append_ne_nil_of_left_ne_nil (encode_ne_nil _) _
    exact List.append_ne_nil_of_left_ne_nil (hcondenses.ne_nil hencode) behind

/-- Decoding any bytes ends. A record of a schema that takes bytes is refused or moves the reader
forward, within the bytes, so the rows are no more than the bytes and all bytes have been read when
there is no error. The schema of a table takes bytes, and so does a row of strings. -/
theorem decoding_ends (bytes : List UInt8) :
    (∀ s : Schema, s.TakesBytes → Progresses s.readRow ∧
      RunsOut s.readNumberedRow 0 (.ofBytes bytes) (s.decode bytes)) ∧
    (∀ grid layout types t s, DataTable.ofGrid grid layout types = .ok t → t.schema = .ok s →
      s.TakesBytes) ∧
    Dictionary.decode bytes 0 = .error (.malformed .zeroWidth) ∧
    ∀ width, 0 < width → RunsOut (fun _ => Dictionary.readStrings width) 0 (.ofBytes bytes)
      (Dictionary.decode bytes width) := by
  refine ⟨?_, fun _ _ _ _ _ h hs => takesBytes_of_table h hs, rfl, ?_⟩
  · intro s h
    exact ⟨progresses_of_takes (takes_readRow_ne_nil h),
      runsOut_readRowsFrom (progresses_readNumberedRow h) 0 (.ofBytes bytes)⟩
  · intro width hwidth
    have hprogress : Progresses (Dictionary.readStrings width) :=
      progresses_of_takes (takes_mono (takes_readStrings width) fun _ _ h => h hwidth)
    rw [Dictionary.decode, if_neg hwidth.ne']
    exact runsOut_readRowsFrom (fun _ => hprogress) 0 (.ofBytes bytes)

lemma takesBytes_loose : looseSchema.TakesBytes := ⟨_, List.mem_cons_self, .builtin .int32⟩

theorem decoding_ends_loose : looseSchema.TakesBytes ∧ Progresses looseSchema.readRow ∧
    RunsOut looseSchema.readNumberedRow 0 (.ofBytes looseBytes) (looseSchema.decode looseBytes) :=
  ⟨takesBytes_loose, (decoding_ends looseBytes).1 looseSchema takesBytes_loose⟩

end Proofs

end TypedTables
