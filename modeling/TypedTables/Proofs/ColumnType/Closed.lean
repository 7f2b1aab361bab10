import TypedTables.ColumnType
import Mathlib.Tactic.Lemma

/-!
# What all readings have in common

The readings of values are put together from few parts: a byte, a run of bytes, a text, an error, and
one reading after another. What these keep is kept by the reading of every column type.
-/

namespace TypedTables.Proofs

/-- A predicate of readings that every part has and that sequences keep. -/
structure ReadClosed (P : ∀ α : Type, Read α → Prop) : Prop where
  pure : ∀ {α : Type} (v : α), P α (pure v)
  bind : ∀ {α β : Type} {m : Read α} {f : α → Read β}, P α m → (∀ v, P β (f v)) → P β (m >>= f)
  byte : P UInt8 Read.byte
  bytes : ∀ n, P (List UInt8) (Read.bytes n)
  text : ∀ n, P String (Wire.readText n)
  integerOverflow : ∀ {α : Type} w, P α (Read.malformed (.integerOverflow w))
  tooManyGroups : ∀ {α : Type} w, P α (Read.malformed (.tooManyGroups w))

namespace ReadClosed

variable {P : ∀ α : Type, Read α → Prop} {α β : Type}

lemma map (h : ReadClosed P) {m : Read α} (f : α → β) (hm : P α m) : P β (f <$> m) := by
  rw [map_eq_pure_bind]
  exact h.bind hm fun v => h.pure (f v)

lemma ite {c : Prop} [Decidable c] {m n : Read α} (hm : P α m) (hn : P α n) :
    P α (if c then m else n) := by
  by_cases hc : c
  · rwa [if_pos hc]
  · rwa [if_neg hc]

lemma readGroups (h : ReadClosed P) (w left shift : Nat) (acc : BitVec w) :
    P (BitVec w) (Varint.readGroups w left shift acc) := by
  induction left generalizing shift acc with
  | zero => exact h.tooManyGroups w
  | succ left ih =>
    apply h.bind h.byte
    exact fun b => ite (h.integerOverflow w) (ite (h.pure _) (ih _ _))

lemma builtin (h : ReadClosed P) (b : Builtin) : P Value b.read := by
  have hword : P UInt32 Wire.read := h.map UInt32.ofBitVec (h.readGroups _ _ _ _)
  have hlong : P UInt64 Wire.read := h.map UInt64.ofBitVec (h.readGroups _ _ _ _)
  have hshort : P UInt16 Wire.read := h.bind hword fun _ => ite (h.pure _) (h.integerOverflow 16)
  cases b with
  | bool => exact h.map _ (h.map (· != 0) h.byte)
  | byte => exact h.map _ h.byte
  | sbyte => exact h.map _ (h.map UInt8.toInt8 h.byte)
  | int16 => exact h.map _ (h.map UInt16.toInt16 hshort)
  | uint16 => exact h.map _ hshort
  | int32 => exact h.map _ (h.map UInt32.toInt32 hword)
  | uint32 => exact h.map _ hword
  | int64 => exact h.map _ (h.map UInt64.toInt64 hlong)
  | uint64 => exact h.map _ hlong
  | float => exact h.map _ (h.bind (h.bytes 4) fun _ => h.pure _)
  | double => exact h.map _ (h.bind (h.bytes 8) fun _ => h.pure _)
  | string => exact h.map _ (h.bind hword fun n => h.text n.toNat)

mutual

lemma read (h : ReadClosed P) : ∀ t : ColumnType, P Value t.read
  | .builtin b => by
    rw [ColumnType.read]
    exact h.builtin b
  | .custom _ _ _ components => by
    rw [ColumnType.read]
    exact h.map _ (h.readEach components)

lemma readEach (h : ReadClosed P) :
    ∀ types : List ColumnType, P (List Value) (ColumnType.readEach types)
  | [] => h.pure []
  | t :: types => by
    rw [ColumnType.readEach]
    exact h.bind (h.read t) fun v => h.bind (h.readEach types) fun rest => h.pure (v :: rest)

end

end ReadClosed

end TypedTables.Proofs
