import TypedTables.Number.Integer
import TypedTables.Text.Blank
import Mathlib.Tactic

/-!
# Runs of digits as bounded integers

Without a sign, a text is an integer of a range exactly if it has a value as a run of digits and the
value is in the range. It is refused at the digit by which it leaves the range, and the value of more
digits is no smaller. With its sign the text of an integer is its usual numeral, and it is read back
in every range that holds it.
-/

namespace TypedTables.Proofs

open Number (digits extendInteger intText natText parseInteger valueFrom? value?)
open Text (digitChar digitValue?)

variable {lo hi k : Int} {s : List Char}

lemma le_of_valueFrom? {acc n : Nat} (h : valueFrom? acc s = some n) : acc ≤ n := by
  induction s generalizing acc with
  | nil => exact (Option.some.inj h).le
  | cons c rest ih =>
    obtain ⟨d, -, hrest⟩ := Option.bind_eq_some_iff.mp h
    have hle := ih hrest
    omega

lemma extendInteger_eq_ok (hlo : lo ≤ 0) {acc : Nat} (hacc : (acc : Int) ≤ hi) :
    extendInteger lo hi false acc s = .ok k ↔
      ∃ n, valueFrom? acc s = some n ∧ (n : Int) ≤ hi ∧ k = n := by
  induction s generalizing acc with
  | nil =>
    rw [extendInteger, valueFrom?, Except.ok.injEq]
    constructor
    · rintro rfl
      exact ⟨acc, rfl, hacc, rfl⟩
    · rintro ⟨n, hn, -, rfl⟩
      rw [Option.some.inj hn]
  | cons c rest ih =>
    rw [extendInteger, valueFrom?]
    cases digitValue? c with
    | none => simp
    | some d =>
      have hcast : (acc : Int) * 10 + d = ((acc * 10 + d : Nat) : Int) := by push_cast; rfl
      simp only [Bool.false_eq_true, if_false, Option.bind_some]
      rw [hcast, if_neg (by omega)]
      by_cases hover : hi < ((acc * 10 + d : Nat) : Int)
      · rw [if_pos hover]
        refine iff_of_false (by simp) ?_
        rintro ⟨n, hn, hle, -⟩
        have hacc := le_of_valueFrom? hn
        omega
      · rw [if_neg hover]
        exact ih (not_lt.mp hover)

/-- A text that begins with no sign is an integer exactly if its value as digits is in the range. -/
theorem parseInteger_eq_ok (hlo : lo ≤ 0) (hhi : 0 ≤ hi) (hne : s ≠ [])
    (hsign : ∀ c ∈ s, c ≠ '+' ∧ c ≠ '-') :
    parseInteger lo hi s = .ok k ↔ ∃ n, value? s = some n ∧ (n : Int) ≤ hi ∧ k = n := by
  rw [value?, ← extendInteger_eq_ok hlo (by exact_mod_cast hhi)]
  obtain ⟨c, rest, rfl⟩ := List.exists_cons_of_ne_nil hne
  obtain ⟨hplus, hminus⟩ := hsign c List.mem_cons_self
  cases rest with
  | nil => simp [parseInteger, hplus, hminus]
  | cons d rest => simp [parseInteger, hplus, hminus]

/-! ### Texts of integers -/

lemma digits_ne_nil (n : Nat) : digits n ≠ [] := by
  rw [digits]
  split <;> simp

lemma isSome_digitValue?_of_mem_digits {n : Nat} {c : Char} (h : c ∈ digits n) :
    (digitValue? c).isSome := by
  induction n using Nat.strongRecOn with
  | ind n ih =>
    have hlast : c = digitChar n → (digitValue? c).isSome := by
      rintro rfl
      rw [Number.digitValue?_digitChar]
      rfl
    rw [digits] at h
    split at h
    · exact hlast (List.mem_singleton.mp h)
    · rcases List.mem_append.mp h with h | h
      · exact ih (n / 10) (by omega) h
      · exact hlast (List.mem_singleton.mp h)

lemma not_isBlank_of_digit {c : Char} (h : (digitValue? c).isSome) : ¬Text.isBlank c := by
  have hc : 48 ≤ c.toNat ∧ c.toNat ≤ 57 := by
    by_contra hnone
    rw [digitValue?, if_neg hnone] at h
    cases h
  simp only [Text.isBlank, Bool.or_eq_true, Bool.and_eq_true, decide_eq_true_eq, beq_iff_eq]
  omega

/-- A digit is no sign. -/
lemma ne_sign_of_digit {c : Char} (h : (digitValue? c).isSome) : c ≠ '+' ∧ c ≠ '-' := by
  constructor
  · rintro rfl
    exact absurd h (by decide)
  · rintro rfl
    exact absurd h (by decide)

lemma extendInteger_negative (hhi : 0 ≤ hi) {acc n : Nat} (h : valueFrom? acc s = some n)
    (hlo : lo ≤ -n) : extendInteger lo hi true (-acc) s = .ok (-n) := by
  induction s generalizing acc with
  | nil => rw [extendInteger, Option.some.inj h]
  | cons c rest ih =>
    obtain ⟨d, hd, hrest⟩ := Option.bind_eq_some_iff.mp h
    have hacc := le_of_valueFrom? hrest
    have hnext : (-acc : Int) * 10 - d = -((acc * 10 + d : Nat) : Int) := by
      push_cast
      ring
    rw [extendInteger, hd]
    simp only [if_true]
    rw [hnext, if_neg (by omega), if_neg (by omega), ih hrest]

theorem parseInteger_intText (hlo : lo ≤ 0) (hhi : 0 ≤ hi) (hlow : lo ≤ k) (hhigh : k ≤ hi) :
    parseInteger lo hi (intText k).toList = .ok k := by
  have hsign : ∀ c ∈ digits k.natAbs, c ≠ '+' ∧ c ≠ '-' := fun c hc =>
    ne_sign_of_digit (isSome_digitValue?_of_mem_digits hc)
  by_cases hneg : k < 0
  · obtain ⟨c, rest, hdigits⟩ := List.exists_cons_of_ne_nil (digits_ne_nil k.natAbs)
    have hvalue : valueFrom? 0 (c :: rest) = some k.natAbs := hdigits ▸ Number.value?_digits k.natAbs
    have hk : -(k.natAbs : Int) = k := by omega
    have hextend : extendInteger lo hi true (-(0 : Nat)) (c :: rest) = .ok (-(k.natAbs : Int)) :=
      extendInteger_negative hhi hvalue (by omega)
    rw [hk] at hextend
    rw [intText, if_pos hneg, String.toList_ofList, hdigits, parseInteger, if_neg (by decide),
      if_pos ⟨rfl, by omega⟩]
    · exact hextend
    · simp
  · rw [intText, if_neg hneg, natText, String.toList_ofList,
      parseInteger_eq_ok hlo hhi (digits_ne_nil _) hsign]
    exact ⟨k.natAbs, Number.value?_digits _, by omega, by omega⟩

/-! ### Decimal numerals -/

lemma digitChar_eq {d : Nat} (h : d < 10) : digitChar d = Nat.digitChar d := by
  interval_cases d <;> rfl

lemma digits_eq_toDigits (n : Nat) : digits n = Nat.toDigits 10 n := by
  induction n using Nat.strongRecOn with
  | ind n ih =>
    rw [digits, Nat.toDigits_eq_if (by decide)]
    split
    · next h => rw [digitChar_eq h]
    · next h =>
      have hlast : digitChar n = digitChar (n % 10) := by rw [digitChar, digitChar, Nat.mod_mod]
      rw [ih (n / 10) (by omega), hlast, digitChar_eq (Nat.mod_lt _ (by decide))]

/-- The text of an integer is its usual decimal numeral. -/
theorem intText_eq_toString (k : Int) : intText k = toString k := by
  have hnat : ∀ n : Nat, String.ofList (digits n) = toString n := fun n => by
    rw [digits_eq_toDigits, Nat.toString_eq_repr, Nat.repr_eq_ofList_toDigits]
  cases k with
  | ofNat n => exact hnat n
  | negSucc n =>
    have htext : toString (Int.negSucc n) = "-" ++ toString (n + 1) := rfl
    rw [intText, if_pos (Int.negSucc_lt_zero n), htext, ← hnat (n + 1), Int.natAbs_negSucc]
    rw [← String.toList_inj]
    simp

end TypedTables.Proofs
