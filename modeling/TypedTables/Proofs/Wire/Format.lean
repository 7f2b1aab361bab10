import TypedTables.Proofs.Wire.Least

/-!
# The format of varints

Which bytes are read as a number of some width, and as which number: groups that fit, for the sum of
the groups times their powers of 128. Numbers of 16 bits are read as wider ones and refused if they
are too large. Of all groups that are read as a number, those that are written are the shortest.
-/

namespace TypedTables.Proofs

variable {α : Type} {most limit greatest : Nat} {number : α → Nat}

/-- The format of a type whose values are written as varints. -/
structure HasVarintForm (α : Type) [Wire α] (most limit greatest : Nat) (number : α → Nat) :
    Prop where
  ok_iff : ∀ r v next, (Wire.read : Read α) r = .ok v next ↔
    ∃ groups, groups <+: r.rest ∧ IsVarint most limit groups ∧
      number v = ∑ i : Fin groups.length, (groups.get i).toNat % 128 * 128 ^ i.val ∧
      next = r.advance groups.length
  exists_ok_iff : ∀ r, (∃ v next, (Wire.read : Read α) r = .ok v next) ↔
    ∃ groups, groups <+: r.rest ∧ IsVarint most limit groups ∧
      ∑ i : Fin groups.length, (groups.get i).toNat % 128 * 128 ^ i.val ≤ greatest
  reads : ∀ v : α, Reads Wire.read (Wire.encode v) v
  length_lt : ∀ (v : α) position bytes,
    Wire.read ⟨position, bytes⟩ = .ok v ⟨position + bytes.length, []⟩ →
      bytes ≠ Wire.encode v → (Wire.encode v).length < bytes.length
  ne_tooManyGroups : ∀ r bits position next,
    (Wire.read : Read α) r ≠ .error (.malformed (.tooManyGroups bits position)) next

/-- The format of a type that has a value for every varint that fits. -/
structure HasFullVarintForm (α : Type) [Wire α] (most limit greatest : Nat) (number : α → Nat) :
    Prop extends HasVarintForm α most limit greatest number where
  exists_ok_iff_isVarint : ∀ r, (∃ v next, (Wire.read : Read α) r = .ok v next) ↔
    ∃ groups, groups <+: r.rest ∧ IsVarint most limit groups

section Form

variable [Wire α] [format : VarintWire α most limit greatest number]

include format

lemma read_eq_ok_iff {r next : Reader} {v : α} : (Wire.read : Read α) r = .ok v next ↔
    ∃ groups, groups <+: r.rest ∧ (IsVarint most limit groups ∧ groupsNumber groups = number v) ∧
      next = r.advance groups.length :=
  eq_ok_iff_of_reads VarintWire.takes fun v groups h => VarintWire.reads v groups h.1 h.2

lemma exists_read_eq_ok_iff {r : Reader} : (∃ v next, (Wire.read : Read α) r = .ok v next) ↔
    ∃ groups, groups <+: r.rest ∧ IsVarint most limit groups ∧ groupsNumber groups ≤ greatest := by
  simp only [read_eq_ok_iff, VarintWire.range (α := α)]
  constructor
  · rintro ⟨v, next, groups, hfront, ⟨hgroups, hnumber⟩, -⟩
    exact ⟨groups, hfront, hgroups, v, hnumber.symm⟩
  · rintro ⟨groups, hfront, hgroups, v, hnumber⟩
    exact ⟨v, _, groups, hfront, ⟨hgroups, hnumber.symm⟩, rfl⟩

/-- Groups that are read as a value are longer than those that are written for it, unless they are
the same. -/
lemma length_lt_of_read {v : α} {position : Nat} {bytes : List UInt8}
    (h : Wire.read ⟨position, bytes⟩ = .ok v ⟨position + bytes.length, []⟩)
    (hne : bytes ≠ Wire.encode v) : (Wire.encode v).length < bytes.length := by
  obtain ⟨taken, hrest, -, hfits, hnumber⟩ := VarintWire.takes _ _ _ h
  obtain rfl : bytes = taken := by simpa using hrest
  rw [VarintWire.encode, ← hnumber] at hne ⊢
  obtain ⟨hgroups, hwritten⟩ := isGroups_encode (groupsNumber bytes)
  have hle := (condenses_groups hfits.groups).length_le
  refine lt_of_le_of_ne hle fun hlength => hne ?_
  exact groups_ext hfits.groups hgroups hlength.symm hwritten.symm

lemma hasVarintForm : HasVarintForm α most limit greatest number where
  ok_iff r v next := by
    rw [read_eq_ok_iff]
    refine exists_congr fun groups => and_congr_right fun _ => ?_
    rw [and_assoc, groupsNumber_eq_sum, eq_comm (b := number v)]
  exists_ok_iff r := by
    rw [exists_read_eq_ok_iff]
    simp only [groupsNumber_eq_sum]
  reads := LawfulWire.reads
  length_lt v position bytes := length_lt_of_read
  ne_tooManyGroups r bits position next h := VarintWire.raises r _ next h bits position rfl

lemma hasFullVarintForm
    (hfull : ∀ groups, IsVarint most limit groups → groupsNumber groups ≤ greatest) :
    HasFullVarintForm α most limit greatest number where
  toHasVarintForm := hasVarintForm
  exists_ok_iff_isVarint r := by
    rw [exists_read_eq_ok_iff]
    refine exists_congr fun groups => and_congr_right fun _ => ?_
    exact and_iff_left_of_imp (hfull groups)

end Form

lemma groupsNumber_lt {w : Nat} {groups : List UInt8} (hw : 0 < w)
    (h : IsVarint (Varint.maxGroups w) (Varint.lastLimit w) groups) : groupsNumber groups < 2 ^ w := by
  obtain ⟨v, -, hv⟩ := exists_reads_groups hw h
  rw [← hv]
  exact v.isLt

/-- Numbers of 32 bits are read from at most five groups, the fifth at most 15, and those of 64 bits
from at most ten, the tenth at most 1; either reading succeeds on all such groups and on nothing
else. Numbers of 16 bits are those of 32 bits up to 65535. A signed number is written as the unsigned
number of its pattern. -/
theorem hasVarintForm_integers :
    HasFullVarintForm UInt32 5 0x0f 0xffffffff UInt32.toNat ∧
    HasFullVarintForm Int32 5 0x0f 0xffffffff (fun v => v.toUInt32.toNat) ∧
    HasFullVarintForm UInt64 10 0x01 0xffffffffffffffff UInt64.toNat ∧
    HasFullVarintForm Int64 10 0x01 0xffffffffffffffff (fun v => v.toUInt64.toNat) ∧
    HasVarintForm UInt16 5 0x0f 0xffff UInt16.toNat ∧
    HasVarintForm Int16 5 0x0f 0xffff (fun v => v.toUInt16.toNat) := by
  have hword : ∀ groups, IsVarint 5 0x0f groups → groupsNumber groups ≤ 0xffffffff :=
    fun _ h => Nat.le_of_lt_succ (groupsNumber_lt (w := 32) (by omega) h)
  have hlong : ∀ groups, IsVarint 10 0x01 groups → groupsNumber groups ≤ 0xffffffffffffffff :=
    fun _ h => Nat.le_of_lt_succ (groupsNumber_lt (w := 64) (by omega) h)
  exact ⟨hasFullVarintForm hword, hasFullVarintForm hword, hasFullVarintForm hlong,
    hasFullVarintForm hlong, hasVarintForm, hasVarintForm⟩

example : (Wire.read : Read UInt32) ⟨3, [0x87, 0x80, 0, 9]⟩ = .ok 7 ⟨6, [9]⟩ := rfl

example : (Wire.read : Read UInt16) ⟨3, [0x80, 0x80, 4, 9]⟩ =
    .error (.malformed (.integerOverflow 16 6)) ⟨6, [9]⟩ := rfl

end TypedTables.Proofs
