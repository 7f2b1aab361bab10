import TypedTables.Schema.Collection
import TypedTables.Proofs.Naming
import TypedTables.Proofs.Number.Integer
import TypedTables.Proofs.Result

/-!
# Keys of collections

The columns of a schema cannot be collected exactly if the number at the end of some name is no key,
and the first such name is the one that is named.
-/

namespace TypedTables

/-- What is wrong with the number at the end of the name, if it has one. -/
def Field.keyFault? (f : Field) : Option KeyFault :=
  match Naming.numericSuffix? f.name with
  | none => none
  | some (_, digits) => if collectionKey? digits = none then some ⟨f.name, digits⟩ else none

/-- Whether the name ends in a number that is not written in ASCII digits, or is larger than every
32-bit integer. -/
def Field.HasUnfitKey (f : Field) : Prop :=
  ∃ stem digits, Proofs.EndsInNumber f.name stem digits ∧
    ∀ n, Number.value? digits.toList = some n → 2147483647 < n

namespace Proofs

variable {s : Schema} {f : Field} {fault : KeyFault} {name stem digits : String}

lemma isDecimalDigit_sign : Text.isDecimalDigit '+' = false ∧ Text.isDecimalDigit '-' = false := by
  decide

/-- The number at the end of a name has no sign. -/
lemma parseKey_eq_ok (h : EndsInNumber name stem digits) {k : Int} :
    Number.parseInteger (-2147483648) 2147483647 digits.toList = .ok k ↔
      ∃ n, Number.value? digits.toList = some n ∧ (n : Int) ≤ 2147483647 ∧ k = n := by
  have hsign : ∀ c ∈ digits.toList, c ≠ '+' ∧ c ≠ '-' := by
    intro c hc
    have hdigit := h.isDigit c hc
    constructor
    · rintro rfl
      simp [isDecimalDigit_sign] at hdigit
    · rintro rfl
      simp [isDecimalDigit_sign] at hdigit
  have hne : digits.toList ≠ [] := fun hnil => h.digits_ne (String.toList_eq_nil_iff.mp hnil)
  exact parseInteger_eq_ok (by omega) (by omega) hne hsign

lemma collectionKey?_eq_none (h : EndsInNumber name stem digits) : collectionKey? digits = none ↔
    ∀ n, Number.value? digits.toList = some n → 2147483647 < n := by
  unfold collectionKey?
  cases hparse : Number.parseInteger (-2147483648) 2147483647 digits.toList with
  | ok k =>
    obtain ⟨n, hn, hle, -⟩ := (parseKey_eq_ok h).mp hparse
    refine iff_of_false (by simp) fun hlarge => ?_
    have hlt := hlarge n hn
    omega
  | error cause =>
    refine iff_of_true rfl fun n hn => ?_
    by_contra hle
    have hfits := (parseKey_eq_ok h).mpr ⟨n, hn, by omega, rfl⟩
    rw [hparse] at hfits
    cases hfits

lemma toInt_of_collectionKey? (h : EndsInNumber name stem digits) {key : Int32}
    (hkey : collectionKey? digits = some key) :
    ∃ n, Number.value? digits.toList = some n ∧ key.toInt = n := by
  unfold collectionKey? at hkey
  cases hparse : Number.parseInteger (-2147483648) 2147483647 digits.toList with
  | ok k =>
    obtain ⟨n, hn, hle, rfl⟩ := (parseKey_eq_ok h).mp hparse
    simp only [hparse, Option.some.injEq] at hkey
    refine ⟨n, hn, ?_⟩
    rw [← hkey, Int32.toInt_ofInt_of_le (by omega) (by omega)]
  | error cause =>
    simp only [hparse] at hkey
    cases hkey

lemma keyFault?_eq_some : f.keyFault? = some fault ↔ ∃ stem digits,
    Naming.numericSuffix? f.name = some (stem, digits) ∧ collectionKey? digits = none ∧
      fault = ⟨f.name, digits⟩ := by
  unfold Field.keyFault?
  cases hsuffix : Naming.numericSuffix? f.name with
  | none => simp
  | some suffix =>
    obtain ⟨stem, digits⟩ := suffix
    by_cases hkey : collectionKey? digits = none
    · simp [hkey, eq_comm]
    · simp [hkey]

lemma exists_keyFault_iff : (∃ fault, f.keyFault? = some fault) ↔ f.HasUnfitKey := by
  simp only [keyFault?_eq_some, numericSuffix?_eq_some]
  constructor
  · rintro ⟨fault, stem, digits, hends, hnone, -⟩
    exact ⟨stem, digits, hends, (collectionKey?_eq_none hends).mp hnone⟩
  · rintro ⟨stem, digits, hends, hlarge⟩
    exact ⟨_, stem, digits, hends, (collectionKey?_eq_none hends).mpr hlarge, rfl⟩

/-- Whether a column can be collected does not depend on the columns before it. -/
lemma collectField_eq_error {collections : List Collection} :
    collectField collections f = .error fault ↔ f.keyFault? = some fault := by
  unfold collectField Field.keyFault?
  cases Naming.numericSuffix? f.name with
  | none => simp
  | some suffix =>
    dsimp only
    cases collectionKey? suffix.2 with
    | none => simp
    | some key => simp

theorem collections_eq_error :
    s.collections = .error fault ↔ s.dataFields.findSome? Field.keyFault? = some fault := by
  have hstep : ∀ collections f fault,
      collectField collections f = .error fault ↔ f.keyFault? = some fault :=
    fun _ _ _ => collectField_eq_error
  unfold Schema.collections
  exact foldlM_eq_error hstep

theorem exists_collections_eq_error_iff :
    (∃ fault, s.collections = .error fault) ↔ ∃ f ∈ s.dataFields, f.HasUnfitKey := by
  simp only [collections_eq_error, ← exists_keyFault_iff, ← Option.isSome_iff_exists,
    List.findSome?_isSome_iff]

end Proofs

end TypedTables
