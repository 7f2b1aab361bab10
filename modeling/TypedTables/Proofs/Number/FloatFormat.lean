import TypedTables.Number.FloatFormat.Shortest
import Mathlib.Tactic

/-!
# Decimals that read back

Which magnitude is nearest to a decimal depends only on the value of the decimal: numerator and
denominator can be scaled, zeros can be moved between coefficient and exponent, and the answers that
are given without computing a power are those that the computation gives. Main statement: the
shortest decimal of a finite magnitude reads back as it.
-/

namespace TypedTables.Proofs

open Number (Decimal FloatFormat dropZeros roundHalfEven)

/-! ### Rounding -/

lemma roundHalfEven_mul_left {k : Nat} (hk : 0 < k) (n d : Nat) :
    roundHalfEven (k * n) (k * d) = roundHalfEven n d := by
  have hbelow : 2 * (k * (n % d)) < k * d ↔ 2 * (n % d) < d := by
    rw [Nat.mul_left_comm, Nat.mul_lt_mul_left hk]
  have habove : k * d < 2 * (k * (n % d)) ↔ d < 2 * (n % d) := by
    rw [Nat.mul_left_comm, Nat.mul_lt_mul_left hk]
  simp only [roundHalfEven, Nat.mul_div_mul_left _ _ hk, Nat.mul_mod_mul_left, hbelow, habove]

lemma roundHalfEven_mul_self {d : Nat} (hd : 0 < d) (n : Nat) : roundHalfEven (n * d) d = n := by
  simp [roundHalfEven, hd]

/-- What is less than half becomes nothing. -/
lemma roundHalfEven_of_lt {n d : Nat} (h : 2 * n < d) : roundHalfEven n d = 0 := by
  have hlt : n < d := by omega
  rw [roundHalfEven, Nat.mod_eq_of_lt hlt, if_pos h, Nat.div_eq_of_lt hlt]

/-! ### Ratios -/

section Ratios

variable (f : FloatFormat)

lemma ofRatio_mul_left {k : Nat} (hk : 0 < k) (num den : Nat) :
    f.ofRatio (k * num) (k * den) = f.ofRatio num den := by
  simp only [FloatFormat.ofRatio, Nat.mul_assoc, Nat.mul_div_mul_left _ _ hk,
    roundHalfEven_mul_left hk]

/-- Equal ratios have the same nearest magnitude. -/
lemma ofRatio_congr {num den num' den' : Nat} (hden : 0 < den) (hden' : 0 < den')
    (h : num * den' = num' * den) : f.ofRatio num den = f.ofRatio num' den' := by
  rw [← ofRatio_mul_left f hden' num den, ← ofRatio_mul_left f hden num' den', Nat.mul_comm den' num,
    h, Nat.mul_comm num' den, Nat.mul_comm den' den]

lemma fractionBits_le_scale : f.fractionBits ≤ f.scale := Nat.le_add_left _ _

lemma scale_le (hf : f.fractionBits ≤ 2 ^ f.exponentBits) : f.scale ≤ 2 * 2 ^ f.exponentBits := by
  have hhalf : 2 ^ (f.exponentBits - 1) ≤ 2 ^ f.exponentBits :=
    Nat.pow_le_pow_right (by norm_num) (Nat.sub_le _ _)
  rw [FloatFormat.scale, Nat.pow_eq]
  omega

lemma ofRatio_of_large {num den : Nat} (hden : 0 < den)
    (h : 2 ^ 2 ^ f.exponentBits * den ≤ num) : f.ofRatio num den = f.infinity := by
  have hquotient : 2 ^ (2 ^ f.exponentBits + f.scale) ≤ num * 2 ^ f.scale / den := by
    rw [Nat.le_div_iff_mul_le hden, pow_add, Nat.mul_right_comm]
    exact Nat.mul_le_mul_right _ h
  have hlog : 2 ^ f.exponentBits + f.scale ≤ (num * 2 ^ f.scale / den).log2 :=
    (Nat.le_log2 (Nat.ne_zero_of_lt (lt_of_lt_of_le (by positivity) hquotient))).mpr hquotient
  have hscale := fractionBits_le_scale f
  simp only [FloatFormat.ofRatio, FloatFormat.infinity, Nat.pow_eq]
  apply min_eq_left
  calc
    (2 ^ f.exponentBits - 1) * 2 ^ f.fractionBits
      ≤ ((num * 2 ^ f.scale / den).log2 - f.fractionBits) * 2 ^ f.fractionBits := by
        apply Nat.mul_le_mul_right
        omega
    _ ≤ _ := Nat.le_add_right _ _

lemma ofRatio_of_small {num den : Nat} (h : 2 * (num * 2 ^ f.scale) < den) :
    f.ofRatio num den = 0 := by
  have hquotient : num * 2 ^ f.scale / den = 0 := Nat.div_eq_of_lt (by omega)
  have hlog : Nat.log2 0 - f.fractionBits = 0 := by simp
  simp only [FloatFormat.ofRatio, Nat.pow_eq, hquotient, hlog, pow_zero, Nat.mul_one, Nat.zero_mul,
    roundHalfEven_of_lt h, Nat.add_zero, Nat.min_zero]

/-! ### Exact values -/

lemma ofRatio_two_pow_scale (n : Nat) : f.ofRatio n (2 ^ f.scale) =
    min f.infinity ((n.log2 - f.fractionBits) * 2 ^ f.fractionBits +
      roundHalfEven n (2 ^ (n.log2 - f.fractionBits))) := by
  simp only [FloatFormat.ofRatio, Nat.pow_eq]
  rw [Nat.mul_div_cancel _ (Nat.two_pow_pos _), Nat.mul_comm n,
    roundHalfEven_mul_left (Nat.two_pow_pos _)]

lemma log2_units (magnitude : Nat) :
    ((2 ^ f.fractionBits + magnitude % 2 ^ f.fractionBits) *
      2 ^ (magnitude / 2 ^ f.fractionBits - 1)).log2 =
        f.fractionBits + (magnitude / 2 ^ f.fractionBits - 1) := by
  have hrest : magnitude % 2 ^ f.fractionBits < 2 ^ f.fractionBits :=
    Nat.mod_lt _ (Nat.two_pow_pos _)
  rw [Nat.log2_eq_iff (by positivity), pow_add, Nat.add_right_comm, pow_add]
  constructor
  · gcongr
    omega
  · rw [pow_succ]
    gcongr
    omega

/-- The units of a magnitude are as many as it stands for. -/
lemma ofRatio_units {magnitude : Nat} (hfinite : magnitude < f.infinity) :
    f.ofRatio (f.units magnitude) (2 ^ f.scale) = magnitude := by
  rw [ofRatio_two_pow_scale]
  suffices h : ((f.units magnitude).log2 - f.fractionBits) * 2 ^ f.fractionBits +
      roundHalfEven (f.units magnitude) (2 ^ ((f.units magnitude).log2 - f.fractionBits)) =
        magnitude by
    rw [h, min_eq_right hfinite.le]
  simp only [FloatFormat.units, Nat.pow_eq]
  split
  · next hsubnormal =>
    have hbits : magnitude.log2 - f.fractionBits = 0 := by
      by_cases hzero : magnitude = 0
      · simp [hzero]
      · have := (Nat.log2_lt hzero).mpr hsubnormal
        omega
    have hround := roundHalfEven_mul_self Nat.one_pos magnitude
    rw [Nat.mul_one] at hround
    rw [hbits, pow_zero, Nat.zero_mul, Nat.zero_add, hround]
  · next hnormal =>
    have hquotient : 1 ≤ magnitude / 2 ^ f.fractionBits :=
      (Nat.one_le_div_iff (Nat.two_pow_pos _)).mpr (not_lt.mp hnormal)
    rw [log2_units f magnitude, Nat.add_sub_cancel_left,
      roundHalfEven_mul_self (Nat.two_pow_pos _)]
    calc
      (magnitude / 2 ^ f.fractionBits - 1) * 2 ^ f.fractionBits +
          (2 ^ f.fractionBits + magnitude % 2 ^ f.fractionBits)
        = (magnitude / 2 ^ f.fractionBits - 1 + 1) * 2 ^ f.fractionBits +
            magnitude % 2 ^ f.fractionBits := by ring
      _ = magnitude := by rw [Nat.sub_add_cancel hquotient, Nat.div_add_mod']

lemma candidate?_readsBack {magnitude dropped : Nat} {whole d : Decimal}
    (h : f.candidate? magnitude whole dropped = some d) :
    f.ofDecimal d.coefficient d.exponent = magnitude := by
  unfold FloatFormat.candidate? at h
  simp only [Bool.and_eq_true, beq_iff_eq] at h
  split at h
  · next hlow =>
    obtain rfl := Option.some.inj h
    exact hlow.1
  · split at h
    · next hnext =>
      obtain rfl := Option.some.inj h
      exact hnext
    · cases h

end Ratios

/-! ### Decimals -/

section Decimals

variable {f : FloatFormat} (hf : f.fractionBits ≤ 2 ^ f.exponentBits)

include hf

omit hf in
/-- A decimal that is taken for infinite without its power is too large. -/
lemma two_pow_mul_le {coefficient : Nat} {exponent : Int} (hzero : coefficient ≠ 0)
    (h : ((2 ^ f.exponentBits : Nat) : Int) < coefficient.log2 / 4 + exponent) :
    2 ^ 2 ^ f.exponentBits * 10 ^ (-exponent).toNat ≤ coefficient * 10 ^ exponent.toNat := by
  have hlow : 2 ^ coefficient.log2 ≤ coefficient := Nat.log2_self_le hzero
  calc
    2 ^ 2 ^ f.exponentBits * 10 ^ (-exponent).toNat
      ≤ 10 ^ 2 ^ f.exponentBits * 10 ^ (-exponent).toNat :=
        Nat.mul_le_mul_right _ (Nat.pow_le_pow_left (by norm_num) _)
    _ ≤ 10 ^ (coefficient.log2 / 4) * 10 ^ exponent.toNat := by
        rw [← pow_add, ← pow_add]
        exact Nat.pow_le_pow_right (by norm_num) (by omega)
    _ ≤ 16 ^ (coefficient.log2 / 4) * 10 ^ exponent.toNat :=
        Nat.mul_le_mul_right _ (Nat.pow_le_pow_left (by norm_num) _)
    _ = 2 ^ (4 * (coefficient.log2 / 4)) * 10 ^ exponent.toNat := by rw [pow_mul]; norm_num
    _ ≤ coefficient * 10 ^ exponent.toNat :=
        Nat.mul_le_mul_right _
          ((Nat.pow_le_pow_right (by norm_num) (Nat.mul_div_le _ _)).trans hlow)

/-- A decimal that is taken for zero without its power is too small. -/
lemma two_mul_lt_ten_pow {coefficient : Nat} {exponent : Int}
    (h : (coefficient.log2 : Int) + exponent < -((2 ^ f.exponentBits : Nat) : Int)) :
    2 * (coefficient * 2 ^ f.scale) < 10 ^ (-exponent).toNat := by
  have hscale := scale_le f hf
  calc
    2 * (coefficient * 2 ^ f.scale)
      < 2 * (2 ^ (coefficient.log2 + 1) * 2 ^ f.scale) := by
        have hhigh : coefficient < 2 ^ (coefficient.log2 + 1) := Nat.lt_log2_self
        gcongr
    _ = 2 ^ (coefficient.log2 + f.scale + 2) := by ring
    _ ≤ 2 ^ (3 * (-exponent).toNat) := Nat.pow_le_pow_right (by norm_num) (by omega)
    _ = 8 ^ (-exponent).toNat := by rw [pow_mul]; norm_num
    _ ≤ 10 ^ (-exponent).toNat := Nat.pow_le_pow_left (by norm_num) _

/-- The answers that are given without a power agree with the computation. -/
theorem ofDecimal_eq_ofRatio (coefficient : Nat) (exponent : Int) :
    f.ofDecimal coefficient exponent =
      f.ofRatio (coefficient * 10 ^ exponent.toNat) (10 ^ (-exponent).toNat) := by
  by_cases hzero : coefficient = 0
  · rw [ofRatio_of_small f (by rw [hzero]; simp), FloatFormat.ofDecimal, if_pos hzero]
  simp only [FloatFormat.ofDecimal, Nat.pow_eq, if_neg hzero]
  split
  · next hlarge =>
    exact (ofRatio_of_large f (by positivity) (two_pow_mul_le hzero hlarge)).symm
  split
  · next hsmall =>
    have hwhole : exponent.toNat = 0 := by omega
    rw [hwhole, pow_zero, Nat.mul_one, ofRatio_of_small f (two_mul_lt_ten_pow hf hsmall)]
  split
  · next hsign =>
    rw [show (-exponent).toNat = 0 by omega, pow_zero]
  · next hsign =>
    rw [show exponent.toNat = 0 by omega, pow_zero, Nat.mul_one]

lemma ofDecimal_mul_pow (coefficient zeros : Nat) (exponent : Int) :
    f.ofDecimal (coefficient * 10 ^ zeros) exponent =
      f.ofDecimal coefficient (exponent + zeros) := by
  rw [ofDecimal_eq_ofRatio hf, ofDecimal_eq_ofRatio hf]
  apply ofRatio_congr f (by positivity) (by positivity)
  have hexponents : zeros + exponent.toNat + (-(exponent + zeros)).toNat =
      (exponent + zeros).toNat + (-exponent).toNat := by
    omega
  calc
    coefficient * 10 ^ zeros * 10 ^ exponent.toNat * 10 ^ (-(exponent + zeros)).toNat
      = coefficient * 10 ^ (zeros + exponent.toNat + (-(exponent + zeros)).toNat) := by ring
    _ = coefficient * 10 ^ (exponent + zeros).toNat * 10 ^ (-exponent).toNat := by
      rw [hexponents]
      ring

lemma ofDecimal_dropZeros (coefficient : Nat) (exponent : Int) :
    f.ofDecimal (dropZeros coefficient exponent).coefficient
      (dropZeros coefficient exponent).exponent = f.ofDecimal coefficient exponent := by
  induction coefficient using Nat.strongRecOn generalizing exponent with
  | ind coefficient ih =>
    rw [dropZeros]
    split
    · next hzero =>
      have hcoefficient : coefficient / 10 * 10 ^ 1 = coefficient := by omega
      rw [ih (coefficient / 10) (by omega), ← Nat.cast_one, ← ofDecimal_mul_pow hf, hcoefficient]
    · rfl

lemma ofDecimal_exact {magnitude : Nat} (hfinite : magnitude < f.infinity) :
    f.ofDecimal (f.exact magnitude).coefficient (f.exact magnitude).exponent = magnitude := by
  have hwhole : (-(f.scale : Int)).toNat = 0 := by omega
  have hplaces : (-(-(f.scale : Int))).toNat = f.scale := by omega
  rw [FloatFormat.exact, ofDecimal_eq_ofRatio hf]
  dsimp only
  rw [hwhole, hplaces, pow_zero, Nat.mul_one, Nat.pow_eq, Nat.mul_comm,
    show 10 = 5 * 2 from rfl, mul_pow, ofRatio_mul_left f (by positivity), ofRatio_units f hfinite]

/-! ### The shortest decimal -/

theorem ofDecimal_shortest {magnitude : Nat} (hfinite : magnitude < f.infinity) :
    f.ofDecimal (f.shortest magnitude).coefficient (f.shortest magnitude).exponent = magnitude := by
  simp only [FloatFormat.shortest, ofDecimal_dropZeros hf]
  cases hfound : (List.range (Number.digitCount (f.exact magnitude).coefficient)).findSome? fun i =>
      f.candidate? magnitude (f.exact magnitude)
        (Number.digitCount (f.exact magnitude).coefficient - (i + 1)) with
  | none => exact ofDecimal_exact hf hfinite
  | some d =>
    obtain ⟨i, -, hi⟩ := List.exists_of_findSome?_eq_some hfound
    exact candidate?_readsBack f hi

end Decimals

end TypedTables.Proofs
