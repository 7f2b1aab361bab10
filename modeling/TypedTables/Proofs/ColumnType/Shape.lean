import TypedTables.Proofs.ColumnType.Cell

/-!
# Shapes of values

A value has the shape of a type if it is made of the scalars that the type is made of, put together
alike. Values of a type's shape are those that can be written, among them all that are read from
cells. Main statement: bytes that are written for a value are read back as it from wherever they lie.
-/

namespace TypedTables

/-- The scalar type that a value is of; none for a composite. -/
def Value.scalar? : Value → Option Builtin
  | bool _ => some .bool
  | byte _ => some .byte
  | sbyte _ => some .sbyte
  | int16 _ => some .int16
  | uint16 _ => some .uint16
  | int32 _ => some .int32
  | uint32 _ => some .uint32
  | int64 _ => some .int64
  | uint64 _ => some .uint64
  | float _ => some .float
  | double _ => some .double
  | string _ => some .string
  | composite _ => none

/-- Whether a value is of the kind of a type, and a composite has as many components as the type,
each of the shape of its own type. -/
inductive HasShape : ColumnType → Value → Prop
  | builtin {b : Builtin} {v : Value} : v.scalar? = some b → HasShape (.builtin b) v
  | custom {name typeText : String} {copies : Bool} {components : List ColumnType}
    {parts : List Value} : List.Forall₂ HasShape components parts →
      HasShape (.custom name typeText copies components) (.composite parts)

/-- The reader that has come to a place in bytes. -/
def Reader.at (bytes : List UInt8) (position : Nat) : Reader := ⟨position, bytes.drop position⟩

namespace Proofs

/-! ### What can be written -/

lemma exists_encode?_iff (b : Builtin) (v : Value) :
    (∃ bytes, b.encode? v = some bytes) ↔ v.scalar? = some b := by
  cases b <;> cases v <;> simp [Builtin.encode?, Value.scalar?]

lemma hasShape_builtin {b : Builtin} {v : Value} :
    HasShape (.builtin b) v ↔ v.scalar? = some b := by
  constructor
  · intro h
    cases h with
    | builtin hscalar => exact hscalar
  · exact .builtin

section Custom

variable {name typeText : String} {copies : Bool} {components : List ColumnType} {v : Value}

lemma hasShape_custom : HasShape (.custom name typeText copies components) v ↔
    ∃ parts, v = .composite parts ∧ List.Forall₂ HasShape components parts := by
  constructor
  · intro h
    cases h with
    | custom hparts => exact ⟨_, rfl, hparts⟩
  · rintro ⟨parts, rfl, hparts⟩
    exact .custom hparts

lemma encode_custom_eq_ok {bytes : List UInt8} :
    (ColumnType.custom name typeText copies components).encode v = .ok bytes ↔
      ∃ parts, v = .composite parts ∧ parts.length = components.length ∧
        ColumnType.encodeEach components parts = .ok bytes := by
  cases v with
  | composite parts =>
    rw [ColumnType.encode]
    by_cases hlength : parts.length = components.length
    · simp [hlength]
    · simp [hlength]
  | _ => simp [ColumnType.encode]

end Custom

mutual

/-- Values of a type's shape are those that can be written. -/
theorem exists_encode_iff : ∀ (t : ColumnType) (v : Value),
    (∃ bytes, t.encode v = .ok bytes) ↔ HasShape t v
  | .builtin b, v => by
    rw [hasShape_builtin, ← exists_encode?_iff, ColumnType.encode]
    cases b.encode? v <;> simp
  | .custom name typeText copies components, v => by
    rw [hasShape_custom]
    simp only [encode_custom_eq_ok]
    constructor
    · rintro ⟨bytes, parts, rfl, hlength, hbytes⟩
      exact ⟨parts, rfl, (exists_encodeEach_iff components parts hlength).mp ⟨bytes, hbytes⟩⟩
    · rintro ⟨parts, rfl, hparts⟩
      have hlength := hparts.length_eq.symm
      obtain ⟨bytes, hbytes⟩ := (exists_encodeEach_iff components parts hlength).mpr hparts
      exact ⟨bytes, parts, rfl, hlength, hbytes⟩

theorem exists_encodeEach_iff : ∀ (types : List ColumnType) (values : List Value),
    values.length = types.length →
      ((∃ bytes, ColumnType.encodeEach types values = .ok bytes) ↔ List.Forall₂ HasShape types values)
  | [], [], _ => ⟨fun _ => .nil, fun _ => ⟨[], rfl⟩⟩
  | t :: types, v :: values, hlength => by
    have hrest := exists_encodeEach_iff types values (Nat.succ.inj hlength)
    rw [List.forall₂_cons, ← exists_encode_iff t v, ← hrest, ColumnType.encodeEach]
    constructor
    · rintro ⟨bytes, h⟩
      obtain ⟨first, hfirst, h⟩ := bind_eq_ok.mp h
      obtain ⟨rest, hrest, -⟩ := bind_eq_ok.mp h
      exact ⟨⟨first, hfirst⟩, rest, hrest⟩
    · rintro ⟨⟨first, hfirst⟩, rest, hrest⟩
      exact ⟨_, bind_eq_ok.mpr ⟨first, hfirst, bind_eq_ok.mpr ⟨rest, hrest, rfl⟩⟩⟩

end

/-! ### What is read from cells -/

lemma scalar?_of_parse {b : Builtin} {text : String} {v : Value} (h : b.parse text = .ok v) :
    v.scalar? = some b := by
  cases b <;> rw [Builtin.parse, map_eq_ok] at h
  all_goals
    obtain ⟨x, -, rfl⟩ := h
    rfl

mutual

/-- What is read from a cell has the shape of the cell's type. -/
theorem hasShape_of_parse : ∀ {t : ColumnType} {text : String} {v : Value},
    t.parse text = .ok v → HasShape t v
  | .builtin b, text, v, h => by
    rw [ColumnType.parse] at h
    exact .builtin (scalar?_of_parse h)
  | .custom name typeText copies components, text, v, h => by
    rw [ColumnType.parse, bind_eq_ok] at h
    obtain ⟨parts, hparts, h⟩ := h
    obtain ⟨values, hvalues, h⟩ := bind_eq_ok.mp h
    obtain rfl := pure_eq_ok.mp h
    exact .custom (haveShapes_of_parseEach hvalues (splitComponents_eq_ok hparts).2)

theorem haveShapes_of_parseEach : ∀ {types : List ColumnType} {texts : List String}
    {values : List Value}, ColumnType.parseEach types texts = .ok values →
      texts.length = types.length → List.Forall₂ HasShape types values
  | [], [], values, h, _ => by
    obtain rfl := pure_eq_ok.mp h
    exact .nil
  | t :: types, text :: texts, values, h, hlength => by
    rw [ColumnType.parseEach, bind_eq_ok] at h
    obtain ⟨v, hv, h⟩ := h
    obtain ⟨rest, hrest, h⟩ := bind_eq_ok.mp h
    obtain rfl := pure_eq_ok.mp h
    exact .cons (hasShape_of_parse hv) (haveShapes_of_parseEach hrest (Nat.succ.inj hlength))

end

/-- Writing never refuses what has been read from a cell of the type. -/
theorem exists_encode_of_parse {t : ColumnType} {text : String} {v : Value}
    (h : t.parse text = .ok v) : ∃ bytes, t.encode v = .ok bytes :=
  (exists_encode_iff t v).mpr (hasShape_of_parse h)

/-! ### Reading what was written -/

/-- What takes these bytes finds them at any place, and stops right behind them. -/
lemma read_at_of_reads {α : Type} {m : Read α} {bytes : List UInt8} {v : α} (h : Reads m bytes v)
    (before behind : List UInt8) : m (.at (before ++ bytes ++ behind) before.length) =
      .ok v (.at (before ++ bytes ++ behind) (before.length + bytes.length)) := by
  have hbehind : (before ++ bytes ++ behind).drop (before.length + bytes.length) = behind := by
    rw [← List.length_append, List.drop_left]
  rw [Reader.at, Reader.at, hbehind, List.append_assoc, List.drop_left]
  exact h before.length behind

/-- A value can be written exactly if it has the shape of the type. Its bytes, if all strings in it
are short enough, are read back as it wherever they lie, and the reader stops right behind them. -/
theorem encode_iff_hasShape_and_read (t : ColumnType) (v : Value) :
    ((∃ bytes, t.encode v = .ok bytes) ↔ HasShape t v) ∧
      ∀ bytes, t.encode v = .ok bytes → HasShortTexts v → ∀ before behind,
        t.read (.at (before ++ bytes ++ behind) before.length) =
          .ok v (.at (before ++ bytes ++ behind) (before.length + bytes.length)) := by
  refine ⟨exists_encode_iff t v, ?_⟩
  intro bytes hbytes hshort before behind
  exact read_at_of_reads (reads_encode hbytes hshort) before behind

/-- A pair of a pair, one of whose strings has a character of two bytes, and of a number that is not
a number. -/
def nestedType : ColumnType :=
  .custom "Outer" "Outer" true
    [.custom "Inner" "Inner" false [.builtin .int16, .builtin .string], .builtin .double]

def nestedValue : Value :=
  .composite [.composite [.int16 (-2), .string "é"], .double ⟨0x7ff8000000000001⟩]

theorem encode_iff_hasShape_and_read_nested :
    nestedType.encode nestedValue =
        .ok [0xfe, 0xff, 3, 2, 0xc3, 0xa9, 1, 0, 0, 0, 0, 0, 0xf8, 0x7f] ∧
      HasShortTexts nestedValue ∧
      nestedType.read (.at [9, 9, 0xfe, 0xff, 3, 2, 0xc3, 0xa9, 1, 0, 0, 0, 0, 0, 0xf8, 0x7f, 0xff] 2) =
        .ok nestedValue
          (.at [9, 9, 0xfe, 0xff, 3, 2, 0xc3, 0xa9, 1, 0, 0, 0, 0, 0, 0xf8, 0x7f, 0xff] 16) := by
  have hbytes : nestedType.encode nestedValue =
      .ok [0xfe, 0xff, 3, 2, 0xc3, 0xa9, 1, 0, 0, 0, 0, 0, 0xf8, 0x7f] := by
    rw [← toOption_eq_some]
    decide +kernel
  have hshort : HasShortTexts nestedValue := by
    unfold nestedValue
    simp only [HasShortTexts, HaveShortTexts]
    decide +kernel
  have hread := (encode_iff_hasShape_and_read nestedType nestedValue).2 _ hbytes hshort [9, 9] [0xff]
  exact ⟨hbytes, hshort, hread⟩

end Proofs

end TypedTables
