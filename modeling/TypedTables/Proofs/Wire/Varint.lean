import TypedTables.Proofs.Wire.Reading

/-!
# Varints, written and read

Reading takes the groups that writing makes, and gives the number. The converse holds up to
padding: what is taken for a number is never shorter and never lighter than the groups that writing
would make, and weighs more unless it is the same.
-/

namespace TypedTables.Proofs

def weight (bytes : List UInt8) : Nat := (bytes.map UInt8.toNat).sum

/-- The second run of bytes is a least form of the first: no longer, no heavier, and lighter unless
it is the same. -/
structure Condenses (taken least : List UInt8) : Prop where
  length_le : least.length ≤ taken.length
  weight_le : weight least ≤ weight taken
  eq_of_weight : weight least = weight taken → least = taken

@[simp] lemma weight_nil : weight [] = 0 := rfl

@[simp] lemma weight_cons (b : UInt8) (bytes : List UInt8) :
    weight (b :: bytes) = b.toNat + weight bytes := by
  simp [weight]

@[simp] lemma weight_append (first second : List UInt8) :
    weight (first ++ second) = weight first + weight second := by
  simp [weight]

lemma condenses_refl (bytes : List UInt8) : Condenses bytes bytes :=
  ⟨le_rfl, le_rfl, fun _ => rfl⟩

lemma condenses_append {taken least taken' least' : List UInt8} (h : Condenses taken least)
    (h' : Condenses taken' least') : Condenses (taken ++ taken') (least ++ least') := by
  have hlength := h.length_le
  have hlength' := h'.length_le
  have hweight := h.weight_le
  have hweight' := h'.weight_le
  refine ⟨by simp only [List.length_append]; omega, by simp only [weight_append]; omega, ?_⟩
  intro heq
  simp only [weight_append] at heq
  rw [h.eq_of_weight (by omega), h'.eq_of_weight (by omega)]

lemma condenses_flatten {parts : List (List UInt8)} {α : Type} {l : List α}
    {least : α → List UInt8} (h : List.Forall₂ (fun x part => Condenses part (least x)) l parts) :
    Condenses parts.flatten (l.flatMap least) := by
  induction h with
  | nil => exact condenses_refl []
  | cons hfirst _ ih =>
    rw [List.flatten_cons, List.flatMap_cons]
    exact condenses_append hfirst ih

lemma weight_flatMap_perm {α : Type} {l l' : List α} (h : l.Perm l') (part : α → List UInt8) :
    weight (l.flatMap part) = weight (l'.flatMap part) :=
  List.Perm.sum_eq ((h.flatMap_right part).map UInt8.toNat)

lemma weight_flatMap_congr {α : Type} {l : List α} {part part' : α → List UInt8}
    (h : ∀ x ∈ l, weight (part x) = weight (part' x)) :
    weight (l.flatMap part) = weight (l.flatMap part') := by
  induction l with
  | nil => rfl
  | cons x rest ih =>
    rw [List.flatMap_cons, List.flatMap_cons, weight_append, weight_append,
      h x List.mem_cons_self, ih fun y hy => h y (List.mem_cons_of_mem x hy)]

lemma toNat_ofNat_byte {n : Nat} (h : n < 256) : (UInt8.ofNat n).toNat = n := by
  simp [UInt8.toNat_ofNat', Nat.mod_eq_of_lt h]

/-- The high bit of a byte says that another group follows. -/
lemma high_bit_eq_zero_iff (b : UInt8) : b &&& 0x80 = 0 ↔ b.toNat < 128 := by
  have hmask : (b &&& 0x80).toBitVec = if b.toBitVec.getLsbD 7 then BitVec.twoPow 8 7 else 0#8 :=
    BitVec.and_twoPow b.toBitVec 7
  have hbit : b.toBitVec.getLsbD 7 = decide (128 ≤ b.toNat) := by
    rw [← BitVec.msb_eq_getLsbD_last, BitVec.msb_eq_decide]
    rfl
  rw [← UInt8.toBitVec_inj, hmask, hbit]
  by_cases h : b.toNat < 128
  · simp [h, Nat.not_le.mpr h]
  · simp [h, Nat.not_lt.mp h]

/-! ### Groups -/

/-- Bytes of one number: all but the last have their high bit set. -/
inductive IsGroups : List UInt8 → Prop
  | last {b : UInt8} : b.toNat < 128 → IsGroups [b]
  | more {b : UInt8} {rest : List UInt8} : 128 ≤ b.toNat → IsGroups rest → IsGroups (b :: rest)

/-- The number that groups stand for. -/
def groupsNumber : List UInt8 → Nat
  | [] => 0
  | b :: rest => b.toNat % 128 + 128 * groupsNumber rest

/-- The number is the sum of the groups, each times its power of 128. -/
lemma groupsNumber_eq_sum (bytes : List UInt8) :
    groupsNumber bytes = ∑ i : Fin bytes.length, (bytes.get i).toNat % 128 * 128 ^ i.val := by
  induction bytes with
  | nil => rfl
  | cons b rest ih =>
    have hrest : 128 * groupsNumber rest =
        ∑ i : Fin rest.length, (rest.get i).toNat % 128 * 128 ^ (i.val + 1) := by
      rw [ih, Finset.mul_sum]
      refine Finset.sum_congr rfl fun i _ => ?_
      rw [pow_succ]
      ring
    rw [groupsNumber, hrest]
    refine Eq.trans ?_ (Fin.sum_univ_succ fun i => ((b :: rest).get i).toNat % 128 * 128 ^ i.val).symm
    simp

lemma encode_ne_nil (n : Nat) : Varint.encode n ≠ [] := by
  rw [Varint.encode]
  split <;> simp

/-- A group before the groups of another number: the least form has one group more, unless that
number is zero and only padded. -/
lemma condenses_group {b : UInt8} {n : Nat} {taken : List UInt8} (hb : 128 ≤ b.toNat)
    (h : Condenses taken (Varint.encode n)) :
    Condenses (b :: taken) (Varint.encode (b.toNat % 128 + 128 * n)) := by
  have hlt := b.toNat_lt
  have hlength := h.length_le
  have hweight := h.weight_le
  by_cases hn : n = 0
  · subst hn
    have hone : Varint.encode (b.toNat % 128 + 128 * 0) = [UInt8.ofNat (b.toNat % 128)] := by
      rw [Varint.encode, if_pos (by omega), Nat.mul_zero, Nat.add_zero]
    have hbyte : (UInt8.ofNat (b.toNat % 128)).toNat = b.toNat % 128 := toNat_ofNat_byte (by omega)
    rw [hone]
    refine ⟨by simp, ?_, ?_⟩
    · simp only [weight_cons, weight_nil, hbyte]
      omega
    · intro heq
      simp only [weight_cons, weight_nil, hbyte] at heq
      omega
  · have hmore : Varint.encode (b.toNat % 128 + 128 * n) = b :: Varint.encode n := by
      rw [Varint.encode, if_neg (by omega)]
      have hhead : (b.toNat % 128 + 128 * n) % 128 + 128 = b.toNat := by omega
      have htail : (b.toNat % 128 + 128 * n) / 128 = n := by omega
      rw [hhead, htail, UInt8.ofNat_toNat]
    rw [hmore]
    exact condenses_append (condenses_refl [b]) h

lemma isGroups_encode (n : Nat) :
    IsGroups (Varint.encode n) ∧ groupsNumber (Varint.encode n) = n := by
  induction n using Varint.encode.induct with
  | case1 n hn =>
    have hb : (UInt8.ofNat n).toNat = n := toNat_ofNat_byte (by omega)
    rw [Varint.encode, if_pos hn]
    refine ⟨.last (by omega), ?_⟩
    simp only [groupsNumber, hb]
    omega
  | case2 n hn ih =>
    have hb : (UInt8.ofNat (n % 128 + 128)).toNat = n % 128 + 128 := toNat_ofNat_byte (by omega)
    rw [Varint.encode, if_neg hn]
    refine ⟨.more (by omega) ih.1, ?_⟩
    rw [groupsNumber, ih.2, hb]
    omega

lemma condenses_groups {bytes : List UInt8} (h : IsGroups bytes) :
    Condenses bytes (Varint.encode (groupsNumber bytes)) := by
  induction h with
  | @last b hb =>
    have hone : Varint.encode (groupsNumber [b]) = [b] := by
      rw [groupsNumber, groupsNumber, Varint.encode, if_pos (by omega), Nat.mul_zero, Nat.add_zero,
        Nat.mod_eq_of_lt hb, UInt8.ofNat_toNat]
    rw [hone]
    exact condenses_refl [b]
  | more hb _ ih => exact condenses_group hb ih

/-! ### Groups that fit -/

/-- Groups of one number, of which there are `most` at the most; the last possible one has room for
numbers up to `limit`. -/
structure IsVarint (most limit : Nat) (bytes : List UInt8) : Prop where
  groups : IsGroups bytes
  length_le : bytes.length ≤ most
  last_le : ∀ b, bytes[most - 1]? = some b → b.toNat ≤ limit

lemma isVarint_cons_iff {left limit : Nat} {b : UInt8} {rest : List UInt8} :
    IsVarint (left + 1) limit (b :: rest) ↔ (left = 0 → b.toNat ≤ limit) ∧
      (b.toNat < 128 ∧ rest = [] ∨ 128 ≤ b.toNat ∧ IsVarint left limit rest) := by
  constructor
  · rintro ⟨hgroups, hlength, hlast⟩
    have hfirst : left = 0 → b.toNat ≤ limit := by
      rintro rfl
      exact hlast b rfl
    refine ⟨hfirst, ?_⟩
    cases hgroups with
    | last hb => exact .inl ⟨hb, rfl⟩
    | more hb hrest =>
      refine .inr ⟨hb, hrest, Nat.le_of_succ_le_succ hlength, fun c hc => hlast c ?_⟩
      cases left with
      | zero => cases hrest <;> simp at hlength
      | succ left => exact hc
  · rintro ⟨hfirst, ⟨hb, rfl⟩ | ⟨hb, hgroups, hlength, hlast⟩⟩
    · refine ⟨.last hb, by simp, fun c hc => ?_⟩
      cases left with
      | zero => exact Option.some.inj hc ▸ hfirst rfl
      | succ left => simp at hc
    · refine ⟨.more hb hgroups, Nat.succ_le_succ hlength, fun c hc => ?_⟩
      cases left with
      | zero => exact Option.some.inj hc ▸ hfirst rfl
      | succ left => exact hlast c hc

lemma lastLimit_of_last {w shift : Nat} (h : shift + 7 = 7 * Varint.maxGroups w) :
    Varint.lastLimit w = 2 ^ (w - shift) - 1 := by
  have hshift : 7 * (Varint.maxGroups w - 1) = shift := by omega
  rw [Varint.lastLimit, hshift]
  rfl

lemma lt_two_pow_sub {w shift n : Nat} (h : n * 2 ^ shift < 2 ^ w) (hshift : shift < w) :
    n < 2 ^ (w - shift) := by
  have hsplit : 2 ^ w = 2 ^ (w - shift) * 2 ^ shift := by
    rw [← pow_add, Nat.sub_add_cancel hshift.le]
  rw [hsplit] at h
  exact Nat.lt_of_mul_lt_mul_right h

/-- A number with another group behind the present one leaves room for it. -/
lemma shift_add_lt {w shift n : Nat} (hn : 128 ≤ n) (h : n * 2 ^ shift < 2 ^ w) :
    shift + 7 < w := by
  have hle : 2 ^ (shift + 7) ≤ n * 2 ^ shift := by
    rw [pow_add, Nat.mul_comm]
    exact Nat.mul_le_mul_right _ hn
  exact (Nat.pow_lt_pow_iff_right (by omega)).mp (lt_of_le_of_lt hle h)

/-- The groups of a number fit where the number does. -/
lemma isVarint_encode {w left shift n : Nat} (hleft : shift + 7 * left = 7 * Varint.maxGroups w)
    (hroom : shift < w) (hfit : n * 2 ^ shift < 2 ^ w) :
    IsVarint left (Varint.lastLimit w) (Varint.encode n) := by
  induction n using Varint.encode.induct generalizing left shift with
  | case1 n hn =>
    obtain ⟨left, rfl⟩ : ∃ before, left = before + 1 := by
      unfold Varint.maxGroups at hleft
      exact ⟨left - 1, by omega⟩
    have hb : (UInt8.ofNat n).toNat = n := toNat_ofNat_byte (by omega)
    rw [Varint.encode, if_pos hn]
    refine isVarint_cons_iff.mpr ⟨?_, .inl ⟨by omega, rfl⟩⟩
    rintro rfl
    have hlt := lt_two_pow_sub hfit hroom
    rw [hb, lastLimit_of_last hleft]
    omega
  | case2 n hn ih =>
    have hmore := shift_add_lt (by omega) hfit
    obtain ⟨left, rfl⟩ : ∃ before, left = before + 1 := by
      unfold Varint.maxGroups at hleft
      exact ⟨left - 1, by omega⟩
    have hb : (UInt8.ofNat (n % 128 + 128)).toNat = n % 128 + 128 := toNat_ofNat_byte (by omega)
    rw [Varint.encode, if_neg hn]
    refine isVarint_cons_iff.mpr ⟨?_, .inr ⟨by omega, ih (by omega) hmore ?_⟩⟩
    · rintro rfl
      unfold Varint.maxGroups at hleft
      omega
    · refine lt_of_le_of_lt ?_ hfit
      have hdiv := Nat.div_mul_le_self n 128
      calc n / 128 * 2 ^ (shift + 7) = n / 128 * 128 * 2 ^ shift := by rw [pow_add]; ring
        _ ≤ n * 2 ^ shift := Nat.mul_le_mul_right _ hdiv

/-! ### Reading groups -/

/-- A group lands above the bits that are already there. -/
lemma toNat_or_group {w : Nat} (acc : BitVec w) (b : UInt8) {shift : Nat}
    (hacc : acc.toNat < 2 ^ shift) (hfit : b.toNat % 128 * 2 ^ shift < 2 ^ w) :
    (acc ||| ((b &&& 0x7f).toBitVec.setWidth w <<< shift)).toNat =
      acc.toNat + b.toNat % 128 * 2 ^ shift := by
  have hlow : (b &&& 0x7f).toNat = b.toNat % 128 := by
    rw [UInt8.toNat_and]
    exact Nat.and_two_pow_sub_one_eq_mod b.toNat 7
  have hsmall : b.toNat % 128 < 2 ^ w :=
    lt_of_le_of_lt (Nat.le_mul_of_pos_right _ (Nat.two_pow_pos shift)) hfit
  have hor := Nat.two_pow_add_eq_or_of_lt hacc (b.toNat % 128)
  rw [BitVec.toNat_or, BitVec.toNat_shiftLeft, BitVec.toNat_setWidth, UInt8.toNat_toBitVec, hlow,
    Nat.mod_eq_of_lt hsmall, Nat.shiftLeft_eq, Nat.mod_eq_of_lt hfit, Nat.or_comm,
    Nat.mul_comm (b.toNat % 128), ← hor, Nat.add_comm]

/-- A group that may stand in its place has room there. -/
lemma group_fits {w left shift : Nat} {b : UInt8}
    (hleft : shift + 7 * (left + 1) = 7 * Varint.maxGroups w) (hroom : shift < w)
    (hlast : left = 0 → b.toNat ≤ Varint.lastLimit w) : b.toNat % 128 * 2 ^ shift < 2 ^ w := by
  have hsmall : b.toNat % 128 < 2 ^ (w - shift) := by
    by_cases hzero : left = 0
    · subst hzero
      have hle := hlast rfl
      rw [lastLimit_of_last hleft] at hle
      have hpos := Nat.two_pow_pos (w - shift)
      have hmod := Nat.mod_le b.toNat 128
      omega
    · have hgroups : 7 * Varint.maxGroups w < w + 7 := by
        unfold Varint.maxGroups
        omega
      have hpow : 2 ^ 7 ≤ 2 ^ (w - shift) := Nat.pow_le_pow_right (by omega) (by omega)
      omega
  calc b.toNat % 128 * 2 ^ shift < 2 ^ (w - shift) * 2 ^ shift :=
        Nat.mul_lt_mul_of_pos_right hsmall (Nat.two_pow_pos shift)
    _ = 2 ^ w := by rw [← pow_add, Nat.sub_add_cancel hroom.le]

lemma add_group_lt {acc n shift : Nat} (hacc : acc < 2 ^ shift) (hn : n < 128) :
    acc + n * 2 ^ shift < 2 ^ (shift + 7) := by
  have hle : n * 2 ^ shift ≤ 127 * 2 ^ shift := Nat.mul_le_mul_right _ (by omega)
  rw [pow_add]
  omega

/-- Behind a group that may stand in its place, reading goes on unless it was the last. -/
lemma reads_readGroups_cons {w left shift : Nat} {acc v : BitVec w} {b : UInt8} {rest : List UInt8}
    (hlast : left = 0 → b.toNat ≤ Varint.lastLimit w)
    (h : Reads (if b &&& 0x80 = 0 then pure (acc ||| ((b &&& 0x7f).toBitVec.setWidth w <<< shift))
      else Varint.readGroups w left (shift + 7)
        (acc ||| ((b &&& 0x7f).toBitVec.setWidth w <<< shift))) rest v) :
    Reads (Varint.readGroups w (left + 1) shift acc) (b :: rest) v := by
  have hallowed : ¬(left = 0 ∧ Varint.lastLimit w < b.toNat) := fun hover =>
    absurd (hlast hover.1) (not_le.mpr hover.2)
  rw [Varint.readGroups]
  apply reads_bind (reads_byte b)
  rw [if_neg hallowed]
  exact h

/-- Groups that fit are read, and their number is put above the bits that are already there. -/
lemma exists_reads_readGroups {w left shift : Nat} {acc : BitVec w} {bytes : List UInt8}
    (hleft : shift + 7 * left = 7 * Varint.maxGroups w) (hroom : shift < w)
    (hacc : acc.toNat < 2 ^ shift) (h : IsVarint left (Varint.lastLimit w) bytes) :
    ∃ v, Reads (Varint.readGroups w left shift acc) bytes v ∧
      v.toNat = acc.toNat + groupsNumber bytes * 2 ^ shift := by
  induction bytes generalizing left shift acc with
  | nil => cases h.groups
  | cons b rest ih =>
    obtain ⟨left, rfl⟩ : ∃ before, left = before + 1 :=
      Nat.exists_eq_add_one.mpr (lt_of_lt_of_le (Nat.succ_pos _) h.length_le)
    obtain ⟨hlast, hrest⟩ := isVarint_cons_iff.mp h
    have hgroup := toNat_or_group acc b hacc (group_fits hleft hroom hlast)
    rcases hrest with ⟨hb, rfl⟩ | ⟨hb, hrest⟩
    · refine ⟨acc ||| ((b &&& 0x7f).toBitVec.setWidth w <<< shift), reads_readGroups_cons hlast ?_, ?_⟩
      · rw [if_pos ((high_bit_eq_zero_iff b).mpr hb)]
        exact reads_pure _
      · rw [hgroup]
        simp [groupsNumber]
    · have hhigh : ¬b &&& 0x80 = 0 := by
        rw [high_bit_eq_zero_iff]
        omega
      have hpos : 0 < rest.length := by
        cases hrest.groups <;> simp
      have hmore : shift + 7 < w := by
        have hleft' := hrest.length_le
        unfold Varint.maxGroups at hleft
        omega
      obtain ⟨v, hreads, hv⟩ := ih (by omega) hmore
        (by rw [hgroup]; exact add_group_lt hacc (Nat.mod_lt _ (by omega))) hrest
      refine ⟨v, reads_readGroups_cons hlast ?_, ?_⟩
      · rw [if_neg hhigh]
        exact hreads
      · rw [hv, hgroup, groupsNumber, pow_add]
        ring

lemma exists_reads_groups {w : Nat} {bytes : List UInt8} (hw : 0 < w)
    (h : IsVarint (Varint.maxGroups w) (Varint.lastLimit w) bytes) :
    ∃ v, Reads (Varint.read w) bytes v ∧ v.toNat = groupsNumber bytes := by
  have hempty : (0 : BitVec w).toNat < 2 ^ 0 := by simp
  obtain ⟨v, hreads, hv⟩ := exists_reads_readGroups (by omega) hw hempty h
  exact ⟨v, hreads, by simpa using hv⟩

lemma reads_groups {w : Nat} {v : BitVec w} {bytes : List UInt8} (hw : 0 < w)
    (h : IsVarint (Varint.maxGroups w) (Varint.lastLimit w) bytes)
    (hv : groupsNumber bytes = v.toNat) : Reads (Varint.read w) bytes v := by
  obtain ⟨found, hreads, hfound⟩ := exists_reads_groups hw h
  obtain rfl : found = v := BitVec.eq_of_toNat_eq (hfound.trans hv)
  exact hreads

/-- What is taken for a number are groups that fit and stand for it. -/
lemma takes_readGroups {w left shift : Nat} {acc : BitVec w}
    (hleft : shift + 7 * left = 7 * Varint.maxGroups w) (hshift : left = 0 ∨ shift < w)
    (hacc : acc.toNat < 2 ^ shift) :
    Takes (Varint.readGroups w left shift acc) (fun v taken =>
      IsVarint left (Varint.lastLimit w) taken ∧
        v.toNat = acc.toNat + groupsNumber taken * 2 ^ shift) := by
  induction left generalizing shift acc with
  | zero => exact takes_malformed _ _
  | succ left ih =>
    have hroom : shift < w := by omega
    refine takes_mono (takes_bind (g := fun b v taken =>
      IsVarint (left + 1) (Varint.lastLimit w) ([b] ++ taken) ∧
        v.toNat = acc.toNat + groupsNumber ([b] ++ taken) * 2 ^ shift) takes_byte ?_) ?_
    · intro b
      refine takes_ite (fun _ => takes_malformed _ _) (fun hallowed => ?_)
      have hlast : left = 0 → b.toNat ≤ Varint.lastLimit w := fun hzero =>
        not_lt.mp fun hover => hallowed ⟨hzero, hover⟩
      have hgroup := toNat_or_group acc b hacc (group_fits hleft hroom hlast)
      refine takes_ite (fun hdone => ?_) (fun hmore => ?_)
      · apply takes_mono (takes_pure _)
        rintro v taken ⟨rfl, rfl⟩
        refine ⟨isVarint_cons_iff.mpr ⟨hlast, .inl ⟨(high_bit_eq_zero_iff b).mp hdone, rfl⟩⟩, ?_⟩
        rw [hgroup]
        simp [groupsNumber]
      · have hhigh : 128 ≤ b.toNat := by
          rw [high_bit_eq_zero_iff] at hmore
          omega
        have hgroups : 7 * Varint.maxGroups w < w + 7 := by
          unfold Varint.maxGroups
          omega
        apply takes_mono (ih (by omega) (by omega)
          (by rw [hgroup]; exact add_group_lt hacc (Nat.mod_lt _ (by omega))))
        rintro v taken ⟨hrest, hv⟩
        refine ⟨isVarint_cons_iff.mpr ⟨hlast, .inr ⟨hhigh, hrest⟩⟩, ?_⟩
        rw [hv, hgroup, List.singleton_append, groupsNumber, pow_add]
        ring
    · rintro v taken ⟨b, first, second, rfl, rfl, h⟩
      exact h

lemma takes_groups (w : Nat) : Takes (Varint.read w) (fun v taken =>
    IsVarint (Varint.maxGroups w) (Varint.lastLimit w) taken ∧ groupsNumber taken = v.toNat) := by
  have hstart : Varint.maxGroups w = 0 ∨ 0 < w := by
    unfold Varint.maxGroups
    omega
  apply takes_mono (takes_readGroups (by omega) hstart (by simp))
  rintro v taken ⟨hfits, hv⟩
  exact ⟨hfits, by simpa using hv.symm⟩

/-- The reading never runs out of groups: the last possible one has no room for a high bit, so it is
refused as too large before another one could be asked for. -/
lemma raises_readGroups {w left shift : Nat} {acc : BitVec w} (hpos : 0 < left)
    (hleft : shift + 7 * left = 7 * Varint.maxGroups w) :
    Raises (Varint.readGroups w left shift acc)
      (fun e => ∀ bits position, e ≠ .malformed (.tooManyGroups bits position)) := by
  induction left generalizing shift acc with
  | zero => omega
  | succ left ih =>
    refine raises_bind (raises_byte (by simp)) fun b => ?_
    refine raises_ite (fun _ => raises_malformed (by simp)) fun hallowed => ?_
    refine raises_ite (fun _ => raises_pure _) fun hmore => ?_
    rw [high_bit_eq_zero_iff] at hmore
    have hnext : 0 < left := by
      by_contra hlast
      obtain rfl : left = 0 := by omega
      have hle : b.toNat ≤ Varint.lastLimit w := not_lt.mp fun hover => hallowed ⟨rfl, hover⟩
      have hroom : w - shift ≤ 7 := by
        unfold Varint.maxGroups at hleft
        omega
      have hpow : 2 ^ (w - shift) ≤ 2 ^ 7 := Nat.pow_le_pow_right (by omega) hroom
      rw [lastLimit_of_last hleft] at hle
      omega
    exact ih hnext (by omega)

end TypedTables.Proofs
