import TypedTables.ColumnType
import TypedTables.Proofs.Result
import TypedTables.Proofs.Wire.Form

/-!
# Values of column types, written and read

The laws of the scalar forms carried over to values of any type: reading a type takes what writing
one of its values makes, and whatever it takes condenses to what writing makes of its result. Cells
of ordinary length hold only strings that can be read back.
-/

namespace TypedTables.Proofs

open Wire (utf8 lengthModulus)

mutual

/-- Whether all strings in a value are short enough to be read back. -/
def HasShortTexts : Value → Prop
  | .string s => (utf8 s).length < lengthModulus
  | .composite parts => HaveShortTexts parts
  | _ => True

def HaveShortTexts : List Value → Prop
  | [] => True
  | v :: rest => HasShortTexts v ∧ HaveShortTexts rest

end

lemma reads_builtin {b : Builtin} {v : Value} {bytes : List UInt8} (h : b.encode? v = some bytes)
    (hshort : HasShortTexts v) : Reads b.read bytes v := by
  unfold Builtin.encode? at h
  split at h <;> simp only [Option.some.injEq, reduceCtorEq] at h
  case h_12 s =>
    subst h
    exact reads_map Value.string (reads_string hshort)
  all_goals
    subst h
    exact reads_map _ (LawfulWire.reads _)

lemma takes_builtin (b : Builtin) : Takes b.read (fun v taken =>
    ∃ least, b.encode? v = some least ∧ Condenses taken least ∧ HasShortTexts v) := by
  cases b
  case string =>
    exact takes_map Value.string takes_string (fun _ _ h => ⟨_, rfl, h.1, h.2⟩)
  all_goals exact takes_map _ LawfulWire.takes (fun _ _ h => ⟨_, rfl, h, trivial⟩)

mutual

theorem reads_encode : ∀ {t : ColumnType} {v : Value} {bytes : List UInt8},
    t.encode v = .ok bytes → HasShortTexts v → Reads t.read bytes v
  | .builtin b, v, bytes, h, hshort => by
    rw [ColumnType.encode] at h
    split at h
    · next found hfound =>
      obtain rfl : found = bytes := by simpa using h
      rw [ColumnType.read]
      exact reads_builtin hfound hshort
    · simp at h
  | .custom name typeText copies components, .composite parts, bytes, h, hshort => by
    rw [ColumnType.encode] at h
    split at h
    · next hlength =>
      rw [ColumnType.read]
      exact reads_map Value.composite (reads_encodeEach h hlength hshort)
    · simp at h

/-- The components of a composite follow each other without anything in between. -/
theorem reads_encodeEach : ∀ {types : List ColumnType} {values : List Value} {bytes : List UInt8},
    ColumnType.encodeEach types values = .ok bytes → values.length = types.length →
      HaveShortTexts values → Reads (ColumnType.readEach types) bytes values
  | [], [], bytes, h, _, _ => by
    obtain rfl : [] = bytes := pure_eq_ok.mp h
    exact reads_pure []
  | t :: types, v :: values, bytes, h, hlength, hshort => by
    rw [ColumnType.encodeEach, bind_eq_ok] at h
    obtain ⟨first, hfirst, h⟩ := h
    obtain ⟨second, hsecond, h⟩ := bind_eq_ok.mp h
    rw [pure_eq_ok] at h
    subst h
    rw [ColumnType.readEach]
    apply reads_bind (reads_encode hfirst hshort.1)
    have htail := reads_bind (f := fun rest => pure (v :: rest))
      (reads_encodeEach hsecond (by simpa using hlength) hshort.2) (reads_pure (v :: values))
    rwa [List.append_nil] at htail

end

mutual

theorem takes_read : ∀ t : ColumnType, Takes t.read (fun v taken =>
    ∃ least, t.encode v = .ok least ∧ Condenses taken least ∧ HasShortTexts v)
  | .builtin b => by
    rw [ColumnType.read]
    apply takes_mono (takes_builtin b)
    rintro v taken ⟨least, hleast, hcondenses, hshort⟩
    exact ⟨least, by rw [ColumnType.encode, hleast], hcondenses, hshort⟩
  | .custom name typeText copies components => by
    rw [ColumnType.read]
    apply takes_map Value.composite (takes_readEach components)
    rintro parts taken ⟨least, hlength, hleast, hcondenses, hshort⟩
    exact ⟨least, by rw [ColumnType.encode, if_pos hlength, hleast], hcondenses, hshort⟩

theorem takes_readEach : ∀ types : List ColumnType, Takes (ColumnType.readEach types)
    (fun values taken => ∃ least, values.length = types.length ∧
      ColumnType.encodeEach types values = .ok least ∧ Condenses taken least ∧
      HaveShortTexts values)
  | [] => by
    rw [ColumnType.readEach]
    apply takes_mono (takes_pure _)
    rintro values taken ⟨rfl, rfl⟩
    exact ⟨[], rfl, rfl, condenses_refl [], trivial⟩
  | t :: types => by
    rw [ColumnType.readEach]
    refine takes_mono (takes_bind (takes_read t) (fun v =>
      takes_bind (takes_readEach types) (fun rest => takes_pure (v :: rest)))) ?_
    rintro values taken ⟨v, first, second, rfl, ⟨least, hleast, hfirst, hshort⟩, rest, third, fourth,
      rfl, ⟨least', hlength, hleast', hthird, hshort'⟩, rfl, rfl⟩
    refine ⟨least ++ least', by simp [hlength], ?_, ?_, hshort, hshort'⟩
    · rw [ColumnType.encodeEach]
      exact bind_eq_ok.mpr ⟨least, hleast, bind_eq_ok.mpr ⟨least', hleast', rfl⟩⟩
    · rw [List.append_nil]
      exact condenses_append hfirst hthird

end

end TypedTables.Proofs
