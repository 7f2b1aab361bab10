import TypedTables.Proofs.Record.Rows
import TypedTables.Proofs.Wire.Position

/-!
# Between records

Where one record ends and the next one begins. Bytes that are records are read alike whatever
records stand before or behind them, and bytes that end within a record are not records.
-/

namespace TypedTables.Proofs

variable {α : Type}

/-- The places in bytes where a record ends, all records before it being read one after the other. -/
inductive IsBoundary (row : Read α) (bytes : List UInt8) : Nat → Prop
  | start : IsBoundary row bytes 0
  | next {n : Nat} {v : α} {r : Reader} : IsBoundary row bytes n →
    row ⟨n, bytes.drop n⟩ = .ok v r → IsBoundary row bytes r.position

/-- Some records and bytes further on, the same records are read from the same bytes. -/
theorem readRowsFrom_moved {row : Nat → Read α} {records bytes : Nat}
    (hrow : ∀ k r, row (k + records) (r.moved bytes) = movedResult records bytes (row k r))
    (k : Nat) (r : Reader) : readRowsFrom row (k + records) (r.moved bytes) =
      (readRowsFrom row k r).mapError (RowError.moved records bytes) := by
  fun_induction readRowsFrom row k r with
  | case1 k r hend =>
    exact readRowsFrom_of_rest_eq_nil (isAtEnd_iff.mp hend)
  | case2 k r hopen e next hread =>
    rw [readRowsFrom, if_neg (show ¬((r.moved bytes).isAtEnd = true) from hopen), hrow, hread]
    rfl
  | case3 k r hopen v next hread hshorter ih =>
    have hmoved : row (k + records) (r.moved bytes) = .ok v (next.moved bytes) := by
      rw [hrow, hread]
      rfl
    rw [readRowsFrom_of_read hmoved hshorter, Nat.add_right_comm, ih]
    cases readRowsFrom row (k + 1) next <;> rfl
  | case4 k r hopen v next hread hstuck =>
    rw [readRowsFrom, if_neg (show ¬((r.moved bytes).isAtEnd = true) from hopen), hrow, hread]
    exact if_neg hstuck

/-- What stands behind records does not change them, and is read as if they were not there. -/
theorem readRowsFrom_append {row : Nat → Read α} (hrow : ∀ k, IsLocal (row k)) {k : Nat}
    {r : Reader} {values : List α} (h : readRowsFrom row k r = .ok values) (rest : List UInt8) :
    readRowsFrom row k ⟨r.position, r.rest ++ rest⟩ =
      (readRowsFrom row (k + values.length) ⟨r.position + r.rest.length, rest⟩).map (values ++ ·) := by
  fun_induction readRowsFrom row k r generalizing values with
  | case1 k r hend =>
    obtain rfl : [] = values := Except.ok.inj h
    simp only [isAtEnd_iff.mp hend, List.nil_append, List.length_nil, Nat.add_zero]
    cases readRowsFrom row k ⟨r.position, rest⟩ <;> rfl
  | case2 k r _ e next hread => cases h
  | case3 k r _ v next hread hshorter ih =>
    obtain ⟨values, hvalues, rfl⟩ := map_eq_ok.mp h
    obtain ⟨taken, htaken, hposition, hreads⟩ := hrow k r v next hread
    have hlength : r.position + r.rest.length = next.position + next.rest.length := by
      rw [htaken, hposition, List.length_append, Nat.add_assoc]
    have hread' : row k ⟨r.position, r.rest ++ rest⟩ = .ok v ⟨next.position, next.rest ++ rest⟩ := by
      rw [htaken, List.append_assoc, hreads, hposition]
    -- the rest begins one record later, where both counts have moved on alike
    rw [readRowsFrom_of_read hread' (by simpa using hshorter), ih hvalues, hlength,
      List.length_cons, Nat.add_right_comm, Nat.add_assoc]
    cases readRowsFrom row (k + (values.length + 1)) ⟨next.position + next.rest.length, rest⟩ <;> rfl
  | case4 k r _ v next hread hstuck => cases h

/-- Behind records of a run that begin where a record ends, a record ends as well. -/
lemma isBoundary_flatten {row : Read α} {values : List α} {records : List (List UInt8)}
    (hrecords : List.Forall₂ (fun v record => record ≠ [] ∧ Reads row record v) values records)
    (before rest : List UInt8)
    (hstart : IsBoundary row (before ++ (records.flatten ++ rest)) before.length) :
    IsBoundary row (before ++ (records.flatten ++ rest)) (before ++ records.flatten).length := by
  induction hrecords generalizing before with
  | nil => simpa using hstart
  | @cons v record values records hfirst _ ih =>
    rw [List.flatten_cons, List.append_assoc, ← List.append_assoc before record] at hstart ⊢
    have hread : row ⟨before.length, (before ++ record ++ (records.flatten ++ rest)).drop
        before.length⟩ = .ok v ⟨before.length + record.length, records.flatten ++ rest⟩ := by
      rw [List.append_assoc, List.drop_left, hfirst.2]
    rw [← List.append_assoc before record records.flatten]
    apply ih
    rw [List.length_append]
    exact .next hstart hread

/-- Up to a place where a record ends there are only records. -/
lemma exists_records_of_isBoundary {row : Read α} (hrow : IsLocal row) {bytes : List UInt8} {n : Nat}
    (h : IsBoundary row bytes n) : ∃ values records rest, bytes = records.flatten ++ rest ∧
      records.flatten.length = n ∧
      List.Forall₂ (fun v record => record ≠ [] ∧ Reads row record v) values records := by
  induction h with
  | start => exact ⟨[], [], bytes, rfl, rfl, .nil⟩
  | @next n v r _ hread ih =>
    obtain ⟨values, records, rest, hbytes, rfl, hrecords⟩ := ih
    obtain ⟨record, hrest, hposition, hreads⟩ := hrow _ v r hread
    obtain rfl : rest = record ++ r.rest := by rwa [hbytes, List.drop_left] at hrest
    rw [hposition]
    -- a record of no bytes ends where it begins and adds nothing to those before it
    rcases eq_or_ne record [] with rfl | hne
    · exact ⟨values, records, r.rest, hbytes, rfl, hrecords⟩
    · exact ⟨values ++ [v], records ++ [record], r.rest, by simp [hbytes], by simp,
        List.rel_append hrecords (.cons ⟨hne, hreads⟩ .nil)⟩

end TypedTables.Proofs
