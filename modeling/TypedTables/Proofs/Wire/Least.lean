import TypedTables.Proofs.Wire.Form

/-!
# Least forms

What is read need not be what is written: a number may be padded with groups of zeros, and any byte
but zero stands for true. The bytes that are written are the least form, and this is a property of
the bytes that were taken.
-/

namespace TypedTables.Proofs

open Wire (utf8 lengthModulus littleEndian ofLittleEndian)

variable {α β : Type}

/-! ### Shortest groups -/

/-- Whether no groups that stand for the same number are shorter. -/
def IsShortest (bytes : List UInt8) : Prop :=
  ∀ other, IsGroups other → groupsNumber other = groupsNumber bytes → bytes.length ≤ other.length

/-- Groups of one length that stand for one number are the same. -/
lemma groups_ext {bytes other : List UInt8} (h : IsGroups bytes) (h' : IsGroups other)
    (hlength : bytes.length = other.length) (hnumber : groupsNumber bytes = groupsNumber other) :
    bytes = other := by
  induction h generalizing other with
  | @last b hb =>
    cases h' with
    | @last c hc =>
      simp only [groupsNumber] at hnumber
      rw [UInt8.toNat_inj.mp (show b.toNat = c.toNat by omega)]
    | more _ hrest => cases hrest <;> simp at hlength
  | @more b rest hb hrest ih =>
    cases h' with
    | last => cases hrest <;> simp at hlength
    | @more c rest' hc hrest' =>
      simp only [groupsNumber] at hnumber
      have hlt := b.toNat_lt
      have hlt' := c.toNat_lt
      rw [UInt8.toNat_inj.mp (show b.toNat = c.toNat by omega),
        ih hrest' (by simpa using hlength) (by omega)]

lemma encode_eq_iff_isShortest {bytes : List UInt8} (h : IsGroups bytes) :
    Varint.encode (groupsNumber bytes) = bytes ↔ IsShortest bytes := by
  constructor
  · intro heq other hother hnumber
    rw [← heq, ← hnumber]
    exact (condenses_groups hother).length_le
  · intro hshortest
    obtain ⟨hgroups, hnumber⟩ := isGroups_encode (groupsNumber bytes)
    have hlength := hshortest _ hgroups hnumber
    exact groups_ext hgroups h ((condenses_groups h).length_le.antisymm hlength) hnumber

/-- The bytes up to the first one whose high bit is not set. -/
def leadingGroups : List UInt8 → List UInt8
  | [] => []
  | b :: rest => if b.toNat < 128 then [b] else b :: leadingGroups rest

lemma leadingGroups_append {bytes : List UInt8} (h : IsGroups bytes) (rest : List UInt8) :
    leadingGroups (bytes ++ rest) = bytes := by
  induction h with
  | last hb => simp [leadingGroups, hb]
  | more hb _ ih => simp [leadingGroups, Nat.not_lt.mpr hb, ih]

/-! ### Scalar types -/

/-- Types of which one can tell from the bytes that were taken whether they are those that would be
written. -/
class LeastWire (α : Type) [Wire α] (IsLeast : outParam (List UInt8 → Prop)) : Prop where
  takes : Takes (Wire.read : Read α) (fun v taken => Wire.encode v = taken ↔ IsLeast taken)

lemma leastWire_of_equiv [Wire α] [Wire β] {IsLeast : List UInt8 → Prop} [LeastWire α IsLeast]
    (e : α ≃ β) (hencode : ∀ v : β, Wire.encode v = Wire.encode (e.symm v))
    (hread : (Wire.read : Read β) = e <$> Wire.read) : LeastWire β IsLeast where
  takes := by
    rw [hread]
    apply takes_map e LeastWire.takes
    intro v taken hv
    rw [hencode, Equiv.symm_apply_apply]
    exact hv

instance : LeastWire UInt8 fun _ => True where
  takes := takes_mono takes_byte fun v _ h => by simp [h, Wire.encode]

instance : LeastWire Int8 fun _ => True :=
  leastWire_of_equiv ⟨UInt8.toInt8, Int8.toUInt8, fun _ => rfl, fun _ => rfl⟩ (fun _ => rfl) rfl

instance : LeastWire Bool fun bytes => bytes = [0] ∨ bytes = [1] where
  takes := by
    apply takes_map (fun b : UInt8 => b != 0) takes_byte
    rintro b taken rfl
    by_cases hb : b = 0
    · simp [hb, Wire.encode]
    · have hencode : Wire.encode (b != 0) = [1] := by simp [hb, Wire.encode]
      rw [hencode]
      constructor
      · exact fun h => Or.inr h.symm
      · rintro (h | h)
        · exact absurd (List.cons.inj h).1 hb
        · exact h.symm

instance [Wire α] {most limit greatest : Nat} {number : α → Nat}
    [VarintWire α most limit greatest number] : LeastWire α IsShortest where
  takes := by
    apply takes_mono VarintWire.takes
    rintro v taken ⟨hfits, hnumber⟩
    rw [VarintWire.encode, ← hnumber]
    exact encode_eq_iff_isShortest hfits.groups

lemma leastWire_of_littleEndian [Wire α] {count : Nat} {pack : Nat → α} {unpack : α → Nat}
    (hunpack : ∀ n < 256 ^ count, unpack (pack n) = n)
    (hencode : ∀ v, Wire.encode v = littleEndian count (unpack v))
    (hread : (Wire.read : Read α) = (fun bytes => pack (ofLittleEndian bytes)) <$> Read.bytes count) :
    LeastWire α fun _ => True where
  takes := by
    rw [hread]
    apply takes_map (fun bytes => pack (ofLittleEndian bytes)) (takes_littleEndian count)
    rintro bytes taken ⟨rfl, hbytes⟩
    rw [hencode, hunpack _ hbytes]
    simp

instance : LeastWire Single fun _ => True :=
  leastWire_of_littleEndian (fun _ => UInt32.toNat_ofNat_of_lt) (fun _ => rfl) rfl

instance : LeastWire Double fun _ => True :=
  leastWire_of_littleEndian (fun _ => UInt64.toNat_ofNat_of_lt) (fun _ => rfl) rfl

instance : LeastWire String fun bytes => IsShortest (leadingGroups bytes) where
  takes := by
    refine takes_mono (takes_bind (g := fun n s taken =>
      taken = utf8 s ∧ (utf8 s).length = n.toNat) (VarintWire.takes (α := UInt32)) fun n => takes_text n.toNat) ?_
    rintro s taken ⟨n, first, second, rfl, ⟨hfits, hnumber⟩, rfl, hlength⟩
    have hlt : (utf8 s).length < lengthModulus := by
      rw [hlength]
      exact n.toNat_lt
    change Varint.encode ((utf8 s).length % lengthModulus) ++ utf8 s = _ ↔ _
    rw [Nat.mod_eq_of_lt hlt, hlength, ← hnumber, leadingGroups_append hfits.groups,
      ← encode_eq_iff_isShortest hfits.groups]
    exact List.append_left_inj (utf8 s)

end TypedTables.Proofs
