import TypedTables.Proofs.ColumnType.Closed
import Mathlib.Tactic

/-!
# Readings at other places

A reading looks at the bytes in front of it and not at its position: further on, it does the same to
the same bytes. Only the places that its errors name are further on as well.
-/

namespace TypedTables

/-- The same fault some records and bytes further on. A fault inside a record is counted from the
record on. -/
def Malformation.moved (records bytes : Nat) : Malformation → Malformation
  | .integerOverflow width position => .integerOverflow width (position + bytes)
  | .tooManyGroups width position => .tooManyGroups width (position + bytes)
  | .lengthBeyondEnd position => .lengthBeyondEnd (position + bytes)
  | .invalidText position => .invalidText (position + bytes)
  | .inRecord record start cause =>
    .inRecord (record + records) (start + bytes) (cause.moved 0 bytes)
  | cause => cause

/-- The same error some records and bytes further on. -/
def RowError.moved (records bytes : Nat) : RowError → RowError
  | .malformed cause => .malformed (cause.moved records bytes)
  | e => e

def Reader.moved (r : Reader) (bytes : Nat) : Reader := ⟨r.position + bytes, r.rest⟩

namespace Proofs

variable {α β : Type}

lemma ctorIdx_moved (records bytes : Nat) (e : RowError) :
    (e.moved records bytes).ctorIdx = e.ctorIdx := by
  cases e <;> rfl

/-- What a reading ends with, some records and bytes further on. -/
def movedResult (records bytes : Nat) :
    EStateM.Result RowError Reader α → EStateM.Result RowError Reader α
  | .ok v r => .ok v (r.moved bytes)
  | .error e r => .error (e.moved records bytes) (r.moved bytes)

/-- Whether a reading does the same to the same bytes wherever they lie. -/
def IsRelative (m : Read α) : Prop := ∀ r bytes, m (r.moved bytes) = movedResult 0 bytes (m r)

lemma isRelative_pure (v : α) : IsRelative (pure v) := fun _ _ => rfl

lemma isRelative_bind {m : Read α} {f : α → Read β} (hm : IsRelative m)
    (hf : ∀ v, IsRelative (f v)) : IsRelative (m >>= f) := by
  intro r bytes
  change EStateM.bind m f _ = movedResult 0 bytes (EStateM.bind m f r)
  unfold EStateM.bind
  rw [hm r bytes]
  cases m r with
  | ok v next => exact hf v next bytes
  | error e next => rfl

lemma isRelative_malformed {cause : Nat → Malformation}
    (h : ∀ position bytes, cause (position + bytes) = (cause position).moved 0 bytes) :
    IsRelative (Read.malformed cause : Read α) := by
  intro r bytes
  change EStateM.Result.error (RowError.malformed (cause (r.position + bytes))) _ = _
  rw [h]
  rfl

lemma advance_moved (r : Reader) (n bytes : Nat) :
    (r.moved bytes).advance n = (r.advance n).moved bytes := by
  simp [Reader.advance, Reader.moved, Nat.add_right_comm]

lemma isRelative_byte : IsRelative Read.byte := by
  intro r bytes
  unfold Read.byte
  rw [advance_moved]
  cases hrest : r.rest <;> simp [Reader.moved, hrest, movedResult, RowError.moved]

lemma isRelative_bytes (n : Nat) : IsRelative (Read.bytes n) := by
  intro r bytes
  unfold Read.bytes
  rw [advance_moved, advance_moved]
  by_cases h : n ≤ r.rest.length <;> simp [Reader.moved, h, movedResult, RowError.moved]

lemma isRelative_text (n : Nat) : IsRelative (Wire.readText n) := by
  intro r bytes
  unfold Wire.readText
  rw [advance_moved]
  by_cases h : n ≤ r.rest.length
  · cases htext : Wire.ofUtf8? (r.rest.take n) <;>
      simp [Reader.moved, h, htext, movedResult, RowError.moved, Read.malformed, Malformation.moved]
  · simp [Reader.moved, h, movedResult, RowError.moved, Read.malformed, Malformation.moved]

lemma isRelative_closed : ReadClosed fun _ => IsRelative where
  pure := isRelative_pure
  bind := isRelative_bind
  byte := isRelative_byte
  bytes := isRelative_bytes
  text := isRelative_text
  integerOverflow _ := isRelative_malformed fun _ _ => rfl
  tooManyGroups _ := isRelative_malformed fun _ _ => rfl

end Proofs

end TypedTables
