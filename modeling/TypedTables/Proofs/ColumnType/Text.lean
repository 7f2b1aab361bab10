import TypedTables.Proofs.ColumnType.Registry
import TypedTables.Proofs.ColumnType.Shape
import TypedTables.Proofs.Number.Decimal

/-!
# Text forms of values

The text of a number or truth value has no white space and no comma in it, so neither trimming a cell
nor cutting it into components changes anything. Main statement: a value of a type whose components
are scalars is read back from its text, unless there is something in it that is no number.
-/

namespace TypedTables

namespace Value

mutual

/-- Whether every floating-point number in a value is one. -/
def isNanFree : Value → Bool
  | float x => !x.isNan
  | double x => !x.isNan
  | composite parts => areNanFree parts
  | _ => true

def areNanFree : List Value → Bool
  | [] => true
  | v :: rest => isNanFree v && areNanFree rest

end

end Value

/-- Whether a type is builtin, or has components and none of them is itself put together. -/
inductive ColumnType.IsFlat : ColumnType → Prop
  | builtin (b : Builtin) : IsFlat (.builtin b)
  | custom {name typeText : String} {copies : Bool} {components : List ColumnType} :
    components ≠ [] → (∀ t ∈ components, t.isScalar = true) →
      IsFlat (.custom name typeText copies components)

namespace Proofs

open Number (intText natText)
open Text (fieldsOn isBlank joinWith trim)

/-- A text without white space and commas. -/
def IsSolid (text : String) : Prop := ∀ c ∈ text.toList, ¬isBlank c ∧ c ≠ ','

/-! ### Scalars -/

lemma solid_of_all {chars : List Char} (h : chars.all (fun c => !isBlank c && c != ',') = true) :
    ∀ c ∈ chars, ¬isBlank c ∧ c ≠ ',' := by
  simpa using h

lemma isSolid_ofList {chars : List Char} (h : ∀ c ∈ chars, c = '-' ∨ isNumberChar c) :
    IsSolid (String.ofList chars) := by
  intro c hc
  rw [String.toList_ofList] at hc
  rcases h c hc with rfl | hc
  · decide
  rw [isNumberChar, Bool.or_eq_true] at hc
  rcases hc with hdigit | hletter
  · refine ⟨not_isBlank_of_digit hdigit, ?_⟩
    rintro rfl
    exact absurd hdigit (by decide)
  · exact solid_of_all (by decide) c (List.contains_iff_mem.mp hletter)

lemma isSolid_natText (n : Nat) : IsSolid (natText n) :=
  isSolid_ofList fun c hc => .inr (isNumberChar_of_isDigit (forall_isDigit_digits n c hc))

lemma isSolid_intText (i : Int) : IsSolid (intText i) := by
  unfold intText
  split
  · refine isSolid_ofList (List.forall_mem_cons.mpr ⟨.inl rfl, fun c hc => .inr ?_⟩)
    exact isNumberChar_of_isDigit (forall_isDigit_digits _ c hc)
  · exact isSolid_natText _

lemma isSolid_floatText (f : Number.FloatFormat) (bits : Nat) : IsSolid (f.text bits) := by
  have h := isSolid_ofList (forall_isNumberChar_text f bits)
  rwa [String.ofList_toList] at h

lemma isSolid_boolText (b : Bool) : IsSolid (Value.boolText b) := by
  cases b <;> exact solid_of_all (by decide)

lemma trim_of_isSolid {text : String} (h : IsSolid text) : trim text = text := by
  rw [trim, stripWhile_of_not fun c hc => (h c hc).1, String.ofList_toList]

lemma isSolid_text {b : Builtin} {v : Value} (hv : v.scalar? = some b) (hb : b ≠ .string) :
    IsSolid v.text := by
  cases v <;> cases hv
  case bool => exact isSolid_boolText _
  case byte | uint16 | uint32 | uint64 => exact isSolid_natText _
  case sbyte | int16 | int32 | int64 => exact isSolid_intText _
  case float | double => exact isSolid_floatText _ _
  case string => exact absurd rfl hb

section Integers

variable {lo hi : Int} (hlo : lo ≤ 0) (hhi : 0 ≤ hi)

include hlo hhi

lemma integerCell_intText (typeText : String) {k : Int} (hlow : lo ≤ k) (hhigh : k ≤ hi) :
    integerCell typeText lo hi (intText k) = .ok k := by
  rw [integerCell, trim_of_isSolid (isSolid_intText k), parseInteger_intText hlo hhi hlow hhigh]
  rfl

lemma integerCell_natText (typeText : String) {n : Nat} (hhigh : (n : Int) ≤ hi) :
    integerCell typeText lo hi (natText n) = .ok n := by
  have htext : natText n = intText n := by
    rw [intText, if_neg (by omega), Int.natAbs_natCast]
  rw [htext, integerCell_intText hlo hhi typeText (by omega) hhigh]

end Integers

lemma ofCell_boolText (b : Bool) : ofCell (Value.boolText b) = Except.ok b := by
  have htrue : Text.sameIgnoringAsciiCase "true" "true" = true := by decide +kernel
  have hother : Text.sameIgnoringAsciiCase "false" "true" = false := by decide +kernel
  have hfalse : Text.sameIgnoringAsciiCase "false" "false" = true := by decide +kernel
  simp only [OfCell.ofCell, trim_of_isSolid (isSolid_boolText b)]
  cases b
  · simp [Value.boolText, hother, hfalse]
  · simp [Value.boolText, htrue]

/-- A scalar is read back from its text. -/
lemma builtin_parse_text {b : Builtin} {v : Value} (hv : v.scalar? = some b) (hnan : v.isNanFree) :
    b.parse v.text = .ok v := by
  cases v <;> cases hv
  all_goals
    rw [Builtin.parse, map_eq_ok, Value.text]
    refine ⟨_, ?_, rfl⟩
  case bool b => exact ofCell_boolText b
  case byte n | uint16 n | uint32 n | uint64 n =>
    have hhigh := n.toNat_lt
    exact map_eq_ok.mpr ⟨_, integerCell_natText (by norm_num) (by norm_num) _ (by omega), by simp⟩
  case sbyte n | int16 n | int32 n | int64 n =>
    have hlow := n.le_toInt
    have hhigh := n.toInt_lt
    exact map_eq_ok.mpr
      ⟨_, integerCell_intText (by norm_num) (by norm_num) _ (by omega) (by omega), by simp⟩
  case float x =>
    have hsolid : IsSolid x.text := isSolid_floatText _ _
    apply mapError_eq_ok.mpr
    rw [trim_of_isSolid hsolid, parse_singleText (by simpa [Value.isNanFree] using hnan)]
  case double x =>
    have hsolid : IsSolid x.text := isSolid_floatText _ _
    apply mapError_eq_ok.mpr
    rw [trim_of_isSolid hsolid, parse_doubleText (by simpa [Value.isNanFree] using hnan)]
  case string s => rfl

/-! ### Flat types -/

lemma isScalar_eq_true {t : ColumnType} :
    t.isScalar = true ↔ ∃ b, t = .builtin b ∧ b ≠ .string := by
  cases t with
  | builtin b => simp [ColumnType.isScalar]
  | custom name typeText copies components => simp [ColumnType.isScalar]

section Components

variable {components : List ColumnType} {parts : List Value}
  (hscalar : ∀ t ∈ components, t.isScalar = true) (hparts : List.Forall₂ HasShape components parts)

include hscalar hparts

lemma isSolid_of_mem_parts : ∀ v ∈ parts, IsSolid v.text := by
  intro v hv
  obtain ⟨t, ht, hshape⟩ := exists_of_mem_right hparts hv
  obtain ⟨b, rfl, hb⟩ := isScalar_eq_true.mp (hscalar t ht)
  exact isSolid_text (hasShape_builtin.mp hshape) hb

/-- Components are found again between the commas. -/
lemma splitComponents_text (hne : components ≠ []) (name : String) :
    splitComponents (Value.composite parts).text name components.length =
      .ok (parts.map Value.text) := by
  have hsolid := isSolid_of_mem_parts hscalar hparts
  have hpartsNe : parts ≠ [] := by
    rintro rfl
    cases hparts
    exact hne rfl
  have hfields : fieldsOn ',' (joinWith "," (parts.map Value.text)) = parts.map Value.text := by
    refine fieldsOn_joinWith rfl (mt List.map_eq_nil_iff.mp hpartsNe) ?_
    exact List.forall_mem_map.mpr fun v hv hcomma => (hsolid v hv _ hcomma).2 rfl
  have htrim : (parts.map Value.text).map trim = parts.map Value.text := by
    rw [List.map_map]
    exact List.map_congr_left fun v hv => trim_of_isSolid (hsolid v hv)
  rw [splitComponents, Value.text, Value.texts_eq_map]
  simp only [hfields, htrim, List.length_map, hparts.length_eq, if_true]

lemma parseEach_texts (hnan : Value.areNanFree parts) :
    ColumnType.parseEach components (parts.map Value.text) = .ok parts := by
  induction hparts with
  | nil => rfl
  | cons hshape _ ih =>
    obtain ⟨hfirst, hrest⟩ := List.forall_mem_cons.mp hscalar
    rw [Value.areNanFree, Bool.and_eq_true] at hnan
    obtain ⟨b, rfl, -⟩ := isScalar_eq_true.mp hfirst
    rw [List.map_cons, ColumnType.parseEach, ColumnType.parse,
      builtin_parse_text (hasShape_builtin.mp hshape) hnan.1]
    exact bind_eq_ok.mpr ⟨_, rfl, bind_eq_ok.mpr ⟨_, ih hrest hnan.2, rfl⟩⟩

end Components

/-- A value of a flat type is read back from its text. -/
theorem parse_text_of_hasShape {type : ColumnType} (htype : type.IsFlat) {v : Value}
    (hshape : HasShape type v) (hnan : v.isNanFree) : type.parse v.text = .ok v := by
  cases htype with
  | builtin b =>
    rw [ColumnType.parse]
    exact builtin_parse_text (hasShape_builtin.mp hshape) hnan
  | custom hne hscalar =>
    obtain ⟨parts, rfl, hparts⟩ := hasShape_custom.mp hshape
    rw [ColumnType.parse]
    exact bind_eq_ok.mpr ⟨_, splitComponents_text hscalar hparts hne _,
      bind_eq_ok.mpr ⟨_, parseEach_texts hscalar hparts hnan, rfl⟩⟩

/-- The types that keywords stand for are flat. -/
lemma isFlat_of_resolve {r : Registry} (hr : r.WellFormed) {keyword : String} {type : ColumnType}
    (h : r.resolve keyword = some type) : type.IsFlat := by
  unfold Registry.resolve at h
  split at h
  · obtain rfl := Option.some.inj h
    exact .builtin _
  · obtain ⟨c, hc, rfl⟩ := Option.map_eq_some_iff.mp h
    obtain ⟨hne, hscalar⟩ := hr.components c (List.mem_of_find?_eq_some hc)
    exact .custom hne hscalar

end Proofs

end TypedTables
