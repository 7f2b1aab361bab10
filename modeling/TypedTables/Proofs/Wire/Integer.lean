import TypedTables.Proofs.Wire.Varint

/-!
# Whole numbers as varints

Whole numbers of 16 bits and more are written as varints of the numbers that their bit patterns stand
for. Those of 16 bits are read as numbers of 32 bits, and refused if they are too large.
-/

namespace TypedTables.Proofs

variable {α β : Type} {most limit greatest : Nat} {number : α → Nat}

/-- Types whose values are written as varints of their numbers, which go up to `greatest`. -/
class VarintWire (α : Type) [Wire α] (most limit greatest : outParam Nat)
    (number : outParam (α → Nat)) : Prop where
  encode : ∀ v, Wire.encode v = Varint.encode (number v)
  fits : ∀ v, IsVarint most limit (Varint.encode (number v))
  range : ∀ n, n ≤ greatest ↔ ∃ v, number v = n
  takes : Takes (Wire.read : Read α) (fun v taken =>
    IsVarint most limit taken ∧ groupsNumber taken = number v)
  reads : ∀ (v : α) groups, IsVarint most limit groups → groupsNumber groups = number v →
    Reads Wire.read groups v
  raises : Raises (Wire.read : Read α)
    (fun e => ∀ bits position, e ≠ .malformed (.tooManyGroups bits position))

lemma varintWire_of_bits [Wire α] {w : Nat} (hw : 0 < w) (e : BitVec w ≃ α)
    (hencode : ∀ v, Wire.encode v = Varint.encode (e.symm v).toNat)
    (hread : (Wire.read : Read α) = e <$> Varint.read w) :
    VarintWire α (Varint.maxGroups w) (Varint.lastLimit w) (2 ^ w - 1)
      (fun v => (e.symm v).toNat) where
  encode := hencode
  fits v := isVarint_encode (by omega) hw (by simpa using (e.symm v).isLt)
  range n := by
    have hpos := Nat.two_pow_pos w
    constructor
    · intro hn
      refine ⟨e (BitVec.ofNat w n), ?_⟩
      rw [Equiv.symm_apply_apply, BitVec.toNat_ofNat, Nat.mod_eq_of_lt (by omega)]
    · rintro ⟨v, rfl⟩
      have hlt := (e.symm v).isLt
      omega
  takes := by
    rw [hread]
    apply takes_map e (takes_groups w)
    intro v taken h
    rwa [Equiv.symm_apply_apply]
  reads v groups hgroups hnumber := by
    rw [hread]
    simpa using reads_map e (reads_groups hw hgroups hnumber)
  raises := by
    have hpos : 0 < Varint.maxGroups w := by
      unfold Varint.maxGroups
      omega
    rw [hread]
    exact raises_map e (raises_readGroups hpos (by omega))

/-- A type whose values are written as those of another type has the numbers of that type. -/
lemma varintWire_of_equiv [Wire α] [Wire β] [VarintWire α most limit greatest number] (e : α ≃ β)
    (hencode : ∀ v : β, Wire.encode v = Wire.encode (e.symm v))
    (hread : (Wire.read : Read β) = e <$> Wire.read) :
    VarintWire β most limit greatest (fun v => number (e.symm v)) where
  encode v := by rw [hencode, VarintWire.encode]
  fits v := VarintWire.fits (e.symm v)
  range n := by
    rw [VarintWire.range (α := α)]
    exact e.symm.surjective.exists
  takes := by
    rw [hread]
    apply takes_map e VarintWire.takes
    intro v taken h
    rwa [Equiv.symm_apply_apply]
  reads v groups hgroups hnumber := by
    rw [hread]
    simpa using reads_map e (VarintWire.reads (e.symm v) groups hgroups hnumber)
  raises := by
    rw [hread]
    exact raises_map e VarintWire.raises

instance : VarintWire UInt32 5 0x0f 0xffffffff UInt32.toNat :=
  varintWire_of_bits (w := 32) (by omega) ⟨UInt32.ofBitVec, UInt32.toBitVec, fun _ => rfl, fun _ => rfl⟩
    (fun _ => rfl) rfl

instance : VarintWire UInt64 10 0x01 0xffffffffffffffff UInt64.toNat :=
  varintWire_of_bits (w := 64) (by omega) ⟨UInt64.ofBitVec, UInt64.toBitVec, fun _ => rfl, fun _ => rfl⟩
    (fun _ => rfl) rfl

instance : VarintWire Int32 5 0x0f 0xffffffff (fun v => v.toUInt32.toNat) :=
  varintWire_of_equiv ⟨UInt32.toInt32, Int32.toUInt32, fun _ => rfl, fun _ => rfl⟩ (fun _ => rfl) rfl

instance : VarintWire Int64 10 0x01 0xffffffffffffffff (fun v => v.toUInt64.toNat) :=
  varintWire_of_equiv ⟨UInt64.toInt64, Int64.toUInt64, fun _ => rfl, fun _ => rfl⟩ (fun _ => rfl) rfl

instance : VarintWire UInt16 5 0x0f 0xffff UInt16.toNat where
  encode _ := rfl
  fits v := by
    have hfits := VarintWire.fits v.toUInt32
    rwa [UInt16.toNat_toUInt32] at hfits
  range n := by
    constructor
    · intro hn
      exact ⟨UInt16.ofNat n, UInt16.toNat_ofNat_of_lt (Nat.lt_succ_of_le hn)⟩
    · rintro ⟨v, rfl⟩
      have hlt := v.toNat_lt
      omega
  takes := by
    refine takes_mono (takes_bind (g := fun n v taken => taken = [] ∧ v.toNat = n.toNat)
      (VarintWire.takes (α := UInt32)) fun n => ?_) ?_
    · refine takes_ite (fun hn => ?_) (fun _ => takes_malformed _ _)
      apply takes_mono (takes_pure _)
      rintro v taken ⟨rfl, rfl⟩
      exact ⟨rfl, by simp [UInt32.toNat_toUInt16, Nat.mod_eq_of_lt hn]⟩
    · rintro v taken ⟨n, first, second, rfl, ⟨hgroups, hnumber⟩, rfl, hv⟩
      rw [List.append_nil, hv]
      exact ⟨hgroups, hnumber⟩
  reads v groups hgroups hnumber := by
    have hlt := v.toNat_lt
    have hwide : (v.toUInt32).toNat = v.toNat := UInt16.toNat_toUInt32 v
    have hread : Reads (Wire.read : Read UInt16) (groups ++ []) v :=
      reads_bind (VarintWire.reads v.toUInt32 groups hgroups (by rw [hnumber, hwide]))
        (by simpa [hwide, hlt] using reads_pure v)
    rwa [List.append_nil] at hread
  raises := by
    refine raises_bind (VarintWire.raises (α := UInt32)) fun n => ?_
    exact raises_ite (fun _ => raises_pure _) (fun _ => raises_malformed (by simp))

instance : VarintWire Int16 5 0x0f 0xffff (fun v => v.toUInt16.toNat) :=
  varintWire_of_equiv ⟨UInt16.toInt16, Int16.toUInt16, fun _ => rfl, fun _ => rfl⟩ (fun _ => rfl) rfl

end TypedTables.Proofs
