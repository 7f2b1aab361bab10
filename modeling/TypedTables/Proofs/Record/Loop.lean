import TypedTables.Proofs.Record.Rows

/-!
# The loop over records

Records are read as long as bytes are left, and nothing counts them. Such a loop ends if every record
takes bytes, and ends as `readRowsFrom` does; over a record that takes none it has no end.
-/

namespace TypedTables.Proofs

variable {α : Type} {row : Nat → Read α}

/-- How the loop ends that reads records until no byte is left. Unlike `readRowsFrom`, the loop goes
on after a record that took no bytes. -/
inductive LoopEnds (row : Nat → Read α) :
    Nat → Reader → EStateM.Result RowError Reader (List α) → Prop
  | atEnd {k : Nat} {r : Reader} : r.rest = [] → LoopEnds row k r (.ok [] r)
  | failed {k : Nat} {r next : Reader} {e : RowError} : r.rest ≠ [] →
      row k r = .error e next → LoopEnds row k r (.error e next)
  | read {k : Nat} {r next last : Reader} {v : α} {values : List α} : r.rest ≠ [] →
      row k r = .ok v next → LoopEnds row (k + 1) next (.ok values last) →
        LoopEnds row k r (.ok (v :: values) last)
  | failedLater {k : Nat} {r next last : Reader} {v : α} {e : RowError} : r.rest ≠ [] →
      row k r = .ok v next → LoopEnds row (k + 1) next (.error e last) →
        LoopEnds row k r (.error e last)

/-- Whether a reading that succeeds moves the reader forward, and not past the end. -/
def Progresses (m : Read α) : Prop :=
  ∀ r v next, m r = .ok v next → ∃ n, 0 < n ∧ n ≤ r.rest.length ∧ next = r.advance n

lemma progresses_of_takes {m : Read α} (h : Takes m fun _ taken => taken ≠ []) : Progresses m := by
  intro r v next hread
  obtain ⟨taken, hrest, hposition, hne⟩ := h r v next hread
  refine ⟨taken.length, List.length_pos_iff.mpr hne, by simp [hrest], ?_⟩
  rw [Reader.advance, hrest, List.drop_left, ← hposition]

/-- Whether the loop ends with an outcome: with no more rows than there were bytes and with all bytes
read, or with an error. -/
def RunsOut (row : Nat → Read α) (k : Nat) (r : Reader) : Except RowError (List α) → Prop
  | .ok values => values.length ≤ r.rest.length ∧
      LoopEnds row k r (.ok values ⟨r.position + r.rest.length, []⟩)
  | .error e => ∃ last, LoopEnds row k r (.error e last)

theorem runsOut_readRowsFrom (hrow : ∀ k, Progresses (row k)) (k : Nat) (r : Reader) :
    RunsOut row k r (readRowsFrom row k r) := by
  have hopen : ∀ {r : Reader}, ¬(r.isAtEnd = true) → r.rest ≠ [] := fun h => mt isAtEnd_iff.mpr h
  fun_induction readRowsFrom row k r with
  | case1 k r hend =>
    have hrest := isAtEnd_iff.mp hend
    obtain ⟨position, rest⟩ := r
    obtain rfl : rest = [] := hrest
    exact ⟨Nat.zero_le _, .atEnd rfl⟩
  | case2 k r hleft e next hread => exact ⟨next, .failed (hopen hleft) hread⟩
  | case3 k r hleft v next hread hshorter ih =>
    obtain ⟨n, hpos, hn, rfl⟩ := hrow k r v next hread
    cases hrest : readRowsFrom row (k + 1) (r.advance n) with
    | error e =>
      rw [hrest] at ih
      obtain ⟨last, hlast⟩ := ih
      exact ⟨last, .failedLater (hopen hleft) hread hlast⟩
    | ok values =>
      rw [hrest] at ih
      obtain ⟨hlength, hlast⟩ := ih
      have hend : (r.advance n).position + (r.advance n).rest.length =
          r.position + r.rest.length := by
        simp only [Reader.advance, List.length_drop]
        omega
      rw [hend] at hlast
      exact ⟨Nat.succ_le_of_lt (lt_of_le_of_lt hlength hshorter), .read (hopen hleft) hread hlast⟩
  | case4 k r hleft v next hread hstuck =>
    obtain ⟨n, hpos, hn, rfl⟩ := hrow k r v next hread
    simp only [Reader.advance, List.length_drop] at hstuck
    omega

/-- Over records that take nothing the loop goes on for ever, unless there are no bytes at all. -/
theorem not_loopEnds {r : Reader} (hopen : r.rest ≠ []) (hrow : ∀ k, ∃ v, row k r = .ok v r)
    (k : Nat) (result : EStateM.Result RowError Reader (List α)) : ¬LoopEnds row k r result := by
  intro h
  induction h with
  | atEnd hrest => exact hopen hrest
  | @failed k r next e _ hread =>
    obtain ⟨v, hv⟩ := hrow k
    cases hv.symm.trans hread
  | @read k r next last v values _ hread _ ih | @failedLater k r next last v e _ hread _ ih =>
    obtain ⟨v', hv⟩ := hrow k
    obtain ⟨-, rfl⟩ := EStateM.Result.ok.inj (hv.symm.trans hread)
    exact ih hopen hrow

end TypedTables.Proofs
