import TypedTables.Number.Float
import TypedTables.Proofs.Number.FloatFormat
import TypedTables.Proofs.Number.Integer
import Mathlib.Data.List.TakeWhile

/-!
# Text of floating-point numbers

The plain text of a decimal is read as a decimal of the same value, with or without a point in it.
So the text of a bit pattern that is a number is read back as this pattern.
-/

namespace TypedTables.Proofs

open Number (Decimal FloatFormat digits isDigit parseDecimal parseExponent value? valueFrom?)
open Text (digitValue?)

/-! ### Runs of digits -/

lemma valueFrom?_replicate_zero (acc zeros : Nat) :
    valueFrom? acc (List.replicate zeros '0') = some (acc * 10 ^ zeros) := by
  induction zeros generalizing acc with
  | zero => simp [valueFrom?]
  | succ zeros ih =>
    have hzero : digitValue? '0' = some 0 := by decide
    rw [List.replicate_succ, valueFrom?, hzero, Option.bind_some, ih, pow_succ']
    simp [Nat.mul_assoc]

lemma value?_digits_append_zeros (n zeros : Nat) :
    value? (digits n ++ List.replicate zeros '0') = some (n * 10 ^ zeros) := by
  have hdigits := Number.value?_digits n
  rw [value?] at hdigits ⊢
  rw [Number.valueFrom?_append, hdigits, Option.bind_some, valueFrom?_replicate_zero]

lemma value?_zeros_append_digits (n zeros : Nat) :
    value? (List.replicate zeros '0' ++ digits n) = some n := by
  rw [value?, Number.valueFrom?_append, valueFrom?_replicate_zero, Nat.zero_mul, Option.bind_some,
    ← value?, Number.value?_digits]

lemma forall_isDigit_digits (n : Nat) : ∀ c ∈ digits n, isDigit c :=
  fun _ hc => isSome_digitValue?_of_mem_digits hc

lemma forall_isDigit_zeros (zeros : Nat) : ∀ c ∈ List.replicate zeros '0', isDigit c := by
  intro c hc
  rw [List.eq_of_mem_replicate hc]
  decide

/-! ### Decimals -/

variable {whole fraction : List Char} {n : Nat}

lemma parseDecimal_whole (hwhole : ∀ c ∈ whole, isDigit c) (hne : whole ≠ [])
    (hvalue : value? whole = some n) : parseDecimal whole = some ⟨n, 0⟩ := by
  have htake : whole.takeWhile isDigit = whole := List.takeWhile_eq_self_iff.mpr hwhole
  have hdrop : whole.dropWhile isDigit = [] := List.dropWhile_eq_nil_iff.mpr hwhole
  simp [parseDecimal, htake, hdrop, hne, parseExponent, hvalue]

lemma parseDecimal_point (hwhole : ∀ c ∈ whole, isDigit c) (hfraction : ∀ c ∈ fraction, isDigit c)
    (hne : whole ≠ []) (hvalue : value? (whole ++ fraction) = some n) :
    parseDecimal (whole ++ '.' :: fraction) = some ⟨n, -(fraction.length : Int)⟩ := by
  have hpoint : isDigit '.' = false := by decide
  have htake : (whole ++ '.' :: fraction).takeWhile isDigit = whole := by
    rw [List.takeWhile_append_of_pos hwhole, List.takeWhile_cons_of_neg (by simp [hpoint]),
      List.append_nil]
  have hdrop : (whole ++ '.' :: fraction).dropWhile isDigit = '.' :: fraction := by
    rw [List.dropWhile_append_of_pos hwhole, List.dropWhile_cons_of_neg (by simp [hpoint])]
  have hfractionTake : fraction.takeWhile isDigit = fraction :=
    List.takeWhile_eq_self_iff.mpr hfraction
  have hfractionDrop : fraction.dropWhile isDigit = [] := List.dropWhile_eq_nil_iff.mpr hfraction
  simp [parseDecimal, htake, hdrop, hne, hfractionTake, hfractionDrop, parseExponent, hvalue]

/-- What the text of a number is made of, but for its sign. -/
def isNumberChar (c : Char) : Bool := isDigit c || ['.', 'i', 'n', 'f', 'N', 'a'].contains c

lemma isNumberChar_of_isDigit {c : Char} (h : isDigit c) : isNumberChar c := by
  simp [isNumberChar, h]

lemma forall_isNumberChar_plain (d : Decimal) : ∀ c ∈ d.plain, isNumberChar c := by
  have hdigits : ∀ c ∈ digits d.coefficient, isNumberChar c := fun c hc =>
    isNumberChar_of_isDigit (forall_isDigit_digits _ c hc)
  have hzeros : ∀ zeros, ∀ c ∈ List.replicate zeros '0', isNumberChar c := fun zeros c hc =>
    isNumberChar_of_isDigit (forall_isDigit_zeros zeros c hc)
  have hpoint : isNumberChar '.' := by decide
  have hzero : isNumberChar '0' := by decide
  simp only [Decimal.plain]
  split
  · exact List.forall_mem_append.mpr ⟨hdigits, hzeros _⟩
  split
  · refine List.forall_mem_append.mpr ⟨fun c hc => hdigits c (List.mem_of_mem_take hc), ?_⟩
    exact List.forall_mem_cons.mpr ⟨hpoint, fun c hc => hdigits c (List.mem_of_mem_drop hc)⟩
  · refine List.forall_mem_cons.mpr ⟨hzero, List.forall_mem_cons.mpr ⟨hpoint, ?_⟩⟩
    exact List.forall_mem_append.mpr ⟨hzeros _, hdigits⟩

section Formats

variable {f : FloatFormat} {body : List Char} {magnitude bits : Nat}

/-- Plain text is read as a decimal of the same value. -/
lemma parseDecimal_plain (hf : f.fractionBits ≤ 2 ^ f.exponentBits) (d : Decimal) :
    ∃ found, parseDecimal d.plain = some found ∧
      f.ofDecimal found.coefficient found.exponent = f.ofDecimal d.coefficient d.exponent := by
  have hdigits := forall_isDigit_digits d.coefficient
  have hne := digits_ne_nil d.coefficient
  simp only [Decimal.plain]
  split
  · next hsign =>
    have hexponent : (0 : Int) + d.exponent.toNat = d.exponent := by omega
    refine ⟨_, parseDecimal_whole ?_ (by simp [hne]) (value?_digits_append_zeros _ _), ?_⟩
    · exact List.forall_mem_append.mpr ⟨hdigits, forall_isDigit_zeros _⟩
    · rw [ofDecimal_mul_pow hf, hexponent]
  split
  · next hsign hplaces =>
    -- the point stands between digits of the coefficient
    have hvalue : value? ((digits d.coefficient).take
        ((digits d.coefficient).length - (-d.exponent).toNat) ++ (digits d.coefficient).drop
          ((digits d.coefficient).length - (-d.exponent).toNat)) = some d.coefficient := by
      rw [List.take_append_drop, Number.value?_digits]
    refine ⟨_, parseDecimal_point (fun c hc => hdigits c (List.mem_of_mem_take hc))
      (fun c hc => hdigits c (List.mem_of_mem_drop hc)) ?_ hvalue, ?_⟩
    · rw [ne_eq, List.take_eq_nil_iff, not_or]
      exact ⟨by omega, hne⟩
    · dsimp only
      congr 1
      rw [List.length_drop]
      omega
  · next hsign hplaces =>
    -- all digits of the coefficient stand behind the point
    have hvalue := value?_zeros_append_digits d.coefficient
      ((-d.exponent).toNat - (digits d.coefficient).length + 1)
    rw [List.replicate_succ, List.cons_append] at hvalue
    have hzero : ∀ c ∈ ['0'], isDigit c := List.forall_mem_singleton.mpr (by decide)
    refine ⟨_, parseDecimal_point hzero ?_ (by simp) hvalue, ?_⟩
    · exact List.forall_mem_append.mpr ⟨forall_isDigit_zeros _, hdigits⟩
    · dsimp only
      congr 1
      rw [List.length_append, List.length_replicate]
      omega

/-- Whether an unsigned text stands for the magnitude. -/
def ReadsAs (f : FloatFormat) (body : List Char) (magnitude : Nat) : Prop :=
  (∃ d, parseDecimal body = some d ∧ f.ofDecimal d.coefficient d.exponent = magnitude) ∨
    parseDecimal body = none ∧ f.ofName? body = some magnitude

lemma readsAs_plainMagnitude (hf : f.fractionBits ≤ 2 ^ f.exponentBits)
    (h : magnitude ≤ f.infinity) : ReadsAs f (f.plainMagnitude magnitude) magnitude := by
  rw [FloatFormat.plainMagnitude, if_neg (not_lt.mpr h)]
  split
  · next hinfinity =>
    refine .inr ⟨by decide, ?_⟩
    have hname : Text.asciiLower "inf" = "inf" := by decide +kernel
    simp [FloatFormat.ofName?, hname, hinfinity]
  split
  · next hzero =>
    refine .inl ⟨⟨0, 0⟩, by decide, ?_⟩
    simp [FloatFormat.ofDecimal, hzero]
  · next hinfinity hzero =>
    obtain ⟨d, hd, hvalue⟩ := parseDecimal_plain hf (f.shortest magnitude)
    exact .inl ⟨d, hd, hvalue.trans (ofDecimal_shortest hf (lt_of_le_of_ne h hinfinity))⟩

lemma forall_isNumberChar_plainMagnitude (f : FloatFormat) (magnitude : Nat) :
    ∀ c ∈ f.plainMagnitude magnitude, isNumberChar c := by
  unfold FloatFormat.plainMagnitude
  split
  · exact List.all_eq_true.mp (by decide)
  split
  · exact List.all_eq_true.mp (by decide)
  split
  · exact List.all_eq_true.mp (by decide)
  · exact forall_isNumberChar_plain _

lemma ReadsAs.ne_nil (h : ReadsAs f body magnitude) : body ≠ [] := by
  rintro rfl
  rcases h with ⟨d, hd, -⟩ | ⟨-, hname⟩
  · simp [parseDecimal] at hd
  · have hempty : Text.asciiLower "" = "" := by decide +kernel
    simp [FloatFormat.ofName?, hempty] at hname

lemma parse_unsigned {c : Char} {rest : List Char} (h : ReadsAs f (c :: rest) magnitude)
    (hsign : c ≠ '+' ∧ c ≠ '-') : f.parse (c :: rest) = .ok magnitude := by
  have hnegative : (c == '-') = false := by simp [hsign.2]
  rw [FloatFormat.parse]
  simp only [hsign.1, hsign.2, or_self, if_false, hnegative]
  rcases h with ⟨d, hd, hvalue⟩ | ⟨hnone, hname⟩
  · simp only [hd, hvalue, FloatFormat.withSign, Bool.false_eq_true, if_false]
  · simp only [hnone, hname, FloatFormat.withSign, Bool.false_eq_true, if_false]

lemma parse_negative (h : ReadsAs f body magnitude) :
    f.parse ('-' :: body) = .ok (f.signBit + magnitude) := by
  rw [FloatFormat.parse]
  simp only [true_or, if_true, beq_self_eq_true]
  rcases h with ⟨d, hd, hvalue⟩ | ⟨hnone, hname⟩
  · simp only [hd, hvalue, FloatFormat.withSign, if_true]
  · simp only [hnone, hname, FloatFormat.withSign, if_true]

lemma ne_sign_of_isNumberChar {c : Char} (h : isNumberChar c) : c ≠ '+' ∧ c ≠ '-' := by
  constructor
  · rintro rfl
    exact absurd h (by decide)
  · rintro rfl
    exact absurd h (by decide)

theorem parse_text (hf : f.fractionBits ≤ 2 ^ f.exponentBits) (hbits : bits < 2 * f.signBit)
    (hnumber : f.magnitude bits ≤ f.infinity) : f.parse (f.text bits).toList = .ok bits := by
  have hreads := readsAs_plainMagnitude hf hnumber
  rw [FloatFormat.text, FloatFormat.signed, String.toList_ofList]
  simp only [hnumber, decide_true, Bool.and_true]
  by_cases hnegative : f.signBit ≤ bits
  · have hmagnitude : f.magnitude bits = bits - f.signBit := by
      rw [FloatFormat.magnitude, Nat.mod_eq_sub_mod hnegative, Nat.mod_eq_of_lt (by omega)]
    rw [if_pos (by simp [FloatFormat.isNegative, hnegative]), parse_negative hreads, hmagnitude,
      Nat.add_sub_cancel' hnegative]
  · have hmagnitude : f.magnitude bits = bits := Nat.mod_eq_of_lt (not_le.mp hnegative)
    have hchars := forall_isNumberChar_plainMagnitude f (f.magnitude bits)
    obtain ⟨c, rest, hbody⟩ := List.exists_cons_of_ne_nil hreads.ne_nil
    rw [if_neg (by simp [FloatFormat.isNegative, hnegative])]
    rw [hbody] at hreads hchars ⊢
    rw [parse_unsigned hreads (ne_sign_of_isNumberChar (hchars c List.mem_cons_self)), hmagnitude]

lemma forall_isNumberChar_text (f : FloatFormat) (bits : Nat) :
    ∀ c ∈ (f.text bits).toList, c = '-' ∨ isNumberChar c := by
  have hchars := forall_isNumberChar_plainMagnitude f (f.magnitude bits)
  rw [FloatFormat.text, FloatFormat.signed, String.toList_ofList]
  split
  · exact List.forall_mem_cons.mpr ⟨.inl rfl, fun c hc => .inr (hchars c hc)⟩
  · exact fun c hc => .inr (hchars c hc)

end Formats

/-! ### Single and double precision -/

theorem parse_singleText {x : Single} (h : x.isNan = false) : Single.parse x.text.toList = .ok x := by
  have hbits : x.bits.toNat < 2 * FloatFormat.binary32.signBit := x.bits.toNat_lt
  have hnumber : FloatFormat.binary32.magnitude x.bits.toNat ≤ FloatFormat.binary32.infinity := by
    simpa [Single.isNan] using h
  rw [Single.parse, Single.text, parse_text (by decide) hbits hnumber, Except.map]
  simp

theorem parse_doubleText {x : Double} (h : x.isNan = false) : Double.parse x.text.toList = .ok x := by
  have hbits : x.bits.toNat < 2 * FloatFormat.binary64.signBit := x.bits.toNat_lt
  have hnumber : FloatFormat.binary64.magnitude x.bits.toNat ≤ FloatFormat.binary64.infinity := by
    simpa [Double.isNan] using h
  rw [Double.parse, Double.text, parse_text (by decide) hbits hnumber, Except.map]
  simp

end TypedTables.Proofs
