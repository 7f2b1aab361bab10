import TypedTables.Record.Rows
import TypedTables.Proofs.Result
import TypedTables.Proofs.Wire.Reading

/-!
# Records back to back

Records that are written one after the other are read one after the other. Their boundaries need no
mark: each reading takes what its record holds, so the next one starts where it should.
-/

namespace TypedTables.Proofs

variable {α : Type}

lemma isAtEnd_iff {r : Reader} : r.isAtEnd = true ↔ r.rest = [] := List.isEmpty_iff

lemma readRowsFrom_of_rest_eq_nil {row : Nat → Read α} {k : Nat} {r : Reader} (h : r.rest = []) :
    readRowsFrom row k r = .ok [] := by
  rw [readRowsFrom, if_pos (isAtEnd_iff.mpr h)]

lemma readRowsFrom_of_read {row : Nat → Read α} {k : Nat} {r next : Reader} {v : α}
    (h : row k r = .ok v next) (hshorter : next.rest.length < r.rest.length) :
    readRowsFrom row k r = (readRowsFrom row (k + 1) next).map (v :: ·) := by
  have hopen : ¬(r.isAtEnd = true) := by
    intro hend
    simp [isAtEnd_iff.mp hend] at hshorter
  rw [readRowsFrom, if_neg hopen]
  simp only [h, if_pos hshorter]

/-- Records that take bytes are read back from what they make together. -/
theorem readRowsFrom_flatten {row : Nat → Read α} {records : List (List UInt8)} {values : List α}
    (h : List.Forall₂ (fun bytes v => bytes ≠ [] ∧ ∀ k, Reads (row k) bytes v) records values)
    (k position : Nat) : readRowsFrom row k ⟨position, records.flatten⟩ = .ok values := by
  induction h generalizing k position with
  | nil => exact readRowsFrom_of_rest_eq_nil rfl
  | @cons bytes v records values hfirst _ ih =>
    obtain ⟨hne, hreads⟩ := hfirst
    have hread : row k ⟨position, (bytes :: records).flatten⟩ =
        .ok v ⟨position + bytes.length, records.flatten⟩ := by
      rw [List.flatten_cons, hreads]
    have hshorter : records.flatten.length < (bytes :: records).flatten.length := by
      have hpos : 0 < bytes.length := List.length_pos_iff.mpr hne
      rw [List.flatten_cons, List.length_append]
      omega
    rw [readRowsFrom_of_read hread hshorter, ih]
    rfl

/-- What has been read from a run of bytes are records that make up the run, none of them empty and
each a form of the value that it gave. -/
theorem exists_records_ne_nil {row : Nat → Read α} {form : α → List UInt8 → Prop}
    (hrow : ∀ k, Takes (row k) form) {k : Nat} {r : Reader} {values : List α}
    (h : readRowsFrom row k r = .ok values) :
    ∃ records, r.rest = records.flatten ∧
      List.Forall₂ (fun v bytes => bytes ≠ [] ∧ form v bytes) values records := by
  fun_induction readRowsFrom row k r generalizing values with
  | case1 k r hend =>
    obtain rfl : [] = values := Except.ok.inj h
    exact ⟨[], isAtEnd_iff.mp hend, .nil⟩
  | case2 k r _ e next herror => simp at h
  | case3 k r _ v next hread hshorter ih =>
    obtain ⟨rest, hrest, rfl⟩ := map_eq_ok.mp h
    obtain ⟨records, hflatten, hforms⟩ := ih hrest
    obtain ⟨taken, htaken, -, hform⟩ := hrow k r v next hread
    have hne : taken ≠ [] := by
      rintro rfl
      rw [htaken, List.nil_append] at hshorter
      exact lt_irrefl _ hshorter
    exact ⟨taken :: records, by rw [htaken, hflatten, List.flatten_cons],
      .cons ⟨hne, hform⟩ hforms⟩
  | case4 k r _ v next hread hstuck => simp at h

theorem exists_records_of_readRowsFrom {row : Nat → Read α} {form : α → List UInt8 → Prop}
    (hrow : ∀ k, Takes (row k) form) {k : Nat} {r : Reader} {values : List α}
    (h : readRowsFrom row k r = .ok values) :
    ∃ records, r.rest = records.flatten ∧ List.Forall₂ form values records := by
  obtain ⟨records, hflatten, hforms⟩ := exists_records_ne_nil hrow h
  exact ⟨records, hflatten, hforms.imp fun _ _ hform => hform.2⟩

/-- What cannot be read fails at a record, behind others that can be read, if records take bytes. -/
theorem exists_records_of_error {row : Nat → Read α} {form : α → List UInt8 → Prop}
    (hrow : ∀ k, Takes (row k) fun v bytes => bytes ≠ [] ∧ form v bytes) {k : Nat} {r : Reader}
    {e : RowError} (h : readRowsFrom row k r = .error e) :
    ∃ values records rest, r.rest = records.flatten ++ rest ∧
      List.Forall₂ (fun v bytes => bytes ≠ [] ∧ form v bytes) values records ∧
      ∃ next, row (k + values.length) ⟨r.position + records.flatten.length, rest⟩ = .error e next := by
  fun_induction readRowsFrom row k r with
  | case1 k r hend => cases h
  | case2 k r hopen e' next hread =>
    obtain rfl := Except.error.inj h
    exact ⟨[], [], r.rest, rfl, .nil, next, hread⟩
  | case3 k r hopen v next hread hshorter ih =>
    obtain ⟨values, records, rest, hrest, hrecords, last, hlast⟩ := ih (map_eq_error.mp h)
    obtain ⟨taken, htaken, hposition, hform⟩ := hrow k r v next hread
    refine ⟨v :: values, taken :: records, rest, ?_, .cons hform hrecords, last, ?_⟩
    · rw [htaken, hrest, List.flatten_cons, List.append_assoc]
    · rw [List.flatten_cons, List.length_append, ← Nat.add_assoc, ← hposition, List.length_cons,
        Nat.add_comm values.length, ← Nat.add_assoc]
      exact hlast
  | case4 k r hopen v next hread hstuck =>
    obtain ⟨taken, htaken, -, hne, -⟩ := hrow k r v next hread
    have hpos := List.length_pos_iff.mpr hne
    rw [htaken, List.length_append] at hstuck
    omega

end TypedTables.Proofs
