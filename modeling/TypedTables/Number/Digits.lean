import TypedTables.Text.DecimalDigit

/-!
# Digits of a number

Decimal digits of natural numbers: writing a number, and the value of a run of digits.
Main statement: the value of the digits of `n` is `n`.
-/

namespace TypedTables.Number

open Text (digitValue? digitChar)

/-- The decimal digits of a number, most significant first, without leading zeros. -/
def digits (n : Nat) : List Char :=
  if n < 10 then [digitChar n] else digits (n / 10) ++ [digitChar n]
termination_by n

def digitCount (n : Nat) : Nat :=
  if n < 10 then 1 else digitCount (n / 10) + 1
termination_by n

/-- The value of a list of digits that continue the number `acc`; `none` if one of them is none. -/
def valueFrom? (acc : Nat) : List Char → Option Nat
  | [] => some acc
  | c :: rest => (digitValue? c).bind fun d => valueFrom? (acc * 10 + d) rest

def value? (s : List Char) : Option Nat :=
  valueFrom? 0 s

def natText (n : Nat) : String :=
  String.ofList (digits n)

/-- A signed number as text: a minus sign in front if it is negative. -/
def intText (i : Int) : String :=
  if i < 0 then String.ofList ('-' :: digits i.natAbs) else natText i.natAbs

theorem digitValue?_digitChar (n : Nat) : digitValue? (digitChar n) = some (n % 10) := by
  have h : n % 10 < 10 := Nat.mod_lt _ (by omega)
  have hv : (48 + n % 10).isValidChar := by
    left
    omega
  have hc : (Char.ofNat (48 + n % 10)).toNat = 48 + n % 10 := congrArg Char.toNat (dif_pos hv)
  simp only [digitValue?, digitChar, hc]
  rw [if_pos (by omega)]
  congr 1
  omega

theorem valueFrom?_append (acc : Nat) (s t : List Char) :
    valueFrom? acc (s ++ t) = (valueFrom? acc s).bind fun m => valueFrom? m t := by
  induction s generalizing acc with
  | nil => rfl
  | cons c rest ih =>
    simp only [List.cons_append, valueFrom?]
    cases digitValue? c with
    | none => rfl
    | some d => exact ih _

theorem value?_digits (n : Nat) : value? (digits n) = some n := by
  induction n using Nat.strongRecOn with
  | ind n ih =>
    rw [digits]
    split
    · next h => simp [value?, valueFrom?, digitValue?_digitChar, Nat.mod_eq_of_lt h]
    · next h =>
      have hi := ih (n / 10) (by omega)
      rw [value?] at hi ⊢
      rw [valueFrom?_append, hi]
      simp [valueFrom?, digitValue?_digitChar]
      omega

end TypedTables.Number
