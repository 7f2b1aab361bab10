import TypedTables.Proofs.ColumnType.Shape
import TypedTables.Proofs.Row.Composite

/-!
# Composites of the standard registry

Emitted code reads the composites of the standard registry by functions of their own, a table by the
components that the registry lists. Main statement: for each of the five types both read a text, and
both read bytes, with one result and one error, and the bytes of a text's value are read back as what
the text stands for.
-/

namespace TypedTables

/-- Whether a composite is what a column type has for values: the two are read alike, from texts and
from bytes, down to errors and positions, and what a table writes is read back. -/
structure Agrees {α : Type} [OfCell α] (t : ColumnType) (read : Read α)
    (components : α → List Value) : Prop where
  injective : Function.Injective components
  parse_ok : ∀ text v, parseComposite text = .ok v ↔
    t.parse text = .ok (.composite (components v))
  parse_error : ∀ text e, (parseComposite text : Except RowError α) = .error e ↔
    ∃ cause, t.parse text = .error cause ∧ e = .conversion 0 cause
  read_ok : ∀ r v next, read r = .ok v next ↔ t.read r = .ok (.composite (components v)) next
  read_error : ∀ r e next, read r = .error e next ↔ t.read r = .error e next
  read_encode : ∀ text v, parseComposite text = .ok v → ∃ bytes,
    t.encode (.composite (components v)) = .ok bytes ∧
      ∀ before behind, read (.at (before ++ bytes ++ behind) before.length) =
        .ok v (.at (before ++ bytes ++ behind) (before.length + bytes.length))

/-- Whether the standard registry has a type of this name, and a composite agrees with it. -/
def IsStandard {α : Type} [OfCell α] (name : String) (read : Read α)
    (components : α → List Value) : Prop :=
  ∃ t, Registry.standard.resolve name = some t ∧ Agrees t read components

namespace Proofs

/-! ### Results under an injective function -/

section Map

variable {α β : Type} {f : α → β}

lemma map_eq_ok_of_injective {ε : Type} (hf : Function.Injective f) {x : Except ε α} {v : α} :
    f <$> x = .ok (f v) ↔ x = .ok v := by
  change x.map f = _ ↔ _
  rw [map_eq_ok]
  constructor
  · rintro ⟨w, hw, hvalue⟩
    rw [hw, hf hvalue]
  · intro hv
    exact ⟨v, hv, rfl⟩

lemma map_read_eq_ok (hf : Function.Injective f) {m : Read α} {r next : Reader} {v : α} :
    (f <$> m) r = .ok (f v) next ↔ m r = .ok v next := by
  simp only [Functor.map, EStateM.map]
  cases m r with
  | ok w between => simp [hf.eq_iff]
  | error e between => simp

lemma map_read_eq_error {m : Read α} {r next : Reader} {e : RowError} :
    (f <$> m) r = .error e next ↔ m r = .error e next := by
  simp only [Functor.map, EStateM.map]
  cases m r with
  | ok w between => simp
  | error e between => simp

end Map

variable {α : Type} [OfCell α] {t : ColumnType} {read : Read α} {components : α → List Value}

/-- What is read like the values of a type, without strings in them, agrees with it. -/
lemma agrees_of_represents [Represents t read fun v => .composite (components v)]
    (hinjective : Function.Injective components) (hshort : ∀ v, HaveShortTexts (components v)) :
    Agrees t read components := by
  have hvalue : Function.Injective fun v : α => Value.composite (components v) :=
    fun _ _ h => hinjective (Value.composite.inj h)
  have hparse : ∀ text v, parseComposite text = .ok v ↔
      t.parse text = .ok (.composite (components v)) := by
    intro text v
    rw [Represents.parse, map_eq_ok_of_injective hvalue]
    exact mapError_eq_ok
  have hread : ∀ r v next, read r = .ok v next ↔
      t.read r = .ok (.composite (components v)) next := by
    intro r v next
    rw [Represents.read (t := t), map_read_eq_ok hvalue]
  refine ⟨hinjective, hparse, ?_, hread, ?_, ?_⟩
  · intro text e
    have herror : ∀ cause, t.parse text = .error cause ↔
        (ofCell text : Except CellFault α) = .error cause := by
      intro cause
      rw [Represents.parse]
      exact map_eq_error
    unfold parseComposite
    rw [mapError_eq_error]
    simp only [herror, eq_comm (a := e)]
  · intro r e next
    rw [Represents.read (t := t), map_read_eq_error]
  · intro text v hv
    obtain ⟨bytes, hbytes⟩ := exists_encode_of_parse ((hparse text v).mp hv)
    refine ⟨bytes, hbytes, fun before behind => (hread _ _ _).mpr ?_⟩
    exact read_at_of_reads (reads_encode hbytes (hshort v)) before behind

/-- A composite whose parts are of one scalar type. -/
lemma isStandard_of_uniform {β : Type} (name : String) (count : Nat) (b : Builtin) {wrap : β → Value}
    (parts : α → List β)
    [Represents (Registry.uniform name count b).columnType read
      fun v => .composite ((parts v).map wrap)]
    (hresolve : Registry.standard.resolve name = some (Registry.uniform name count b).columnType)
    (hparts : Function.Injective parts) (hwrap : Function.Injective wrap)
    (hshort : ∀ x, HasShortTexts (wrap x)) :
    IsStandard name read fun v => (parts v).map wrap := by
  refine ⟨_, hresolve, agrees_of_represents ((List.map_injective_iff.mpr hwrap).comp hparts) ?_⟩
  intro v
  induction parts v with
  | nil => trivial
  | cons x rest ih => exact ⟨hshort x, ih⟩

lemma injective_vector2 : Function.Injective Vector2.parts := by
  rintro ⟨⟩ ⟨⟩ h
  simpa [Vector2.parts] using h

lemma injective_vector3 : Function.Injective Vector3.parts := by
  rintro ⟨⟩ ⟨⟩ h
  simpa [Vector3.parts] using h

lemma injective_vector4 : Function.Injective Vector4.parts := by
  rintro ⟨⟩ ⟨⟩ h
  simpa [Vector4.parts] using h

lemma injective_color : Function.Injective Color.parts := by
  rintro ⟨⟩ ⟨⟩ h
  simpa [Color.parts] using h

lemma injective_color32 : Function.Injective Color32.parts := by
  rintro ⟨⟩ ⟨⟩ h
  simpa [Color32.parts] using h

/-- Each composite agrees with the type of its name in the standard registry. -/
theorem isStandard_composites :
    IsStandard "Vector2" Vector2.read (fun v => [.float v.x, .float v.y]) ∧
    IsStandard "Vector3" Vector3.read (fun v => [.float v.x, .float v.y, .float v.z]) ∧
    IsStandard "Vector4" Vector4.read (fun v => [.float v.x, .float v.y, .float v.z, .float v.w]) ∧
    IsStandard "Color" Color.read (fun c => [.float c.r, .float c.g, .float c.b, .float c.a]) ∧
    IsStandard "Color32" Color32.read (fun c => [.byte c.r, .byte c.g, .byte c.b, .byte c.a]) := by
  have hfloat : Function.Injective Value.float := fun _ _ => Value.float.inj
  have hbyte : Function.Injective Value.byte := fun _ _ => Value.byte.inj
  refine ⟨?_, ?_, ?_, ?_, ?_⟩
  · exact isStandard_of_uniform "Vector2" 2 .float Vector2.parts (by decide +kernel)
      injective_vector2 hfloat fun _ => trivial
  · exact isStandard_of_uniform "Vector3" 3 .float Vector3.parts (by decide +kernel)
      injective_vector3 hfloat fun _ => trivial
  · exact isStandard_of_uniform "Vector4" 4 .float Vector4.parts (by decide +kernel)
      injective_vector4 hfloat fun _ => trivial
  · exact isStandard_of_uniform "Color" 4 .float Color.parts (by decide +kernel)
      injective_color hfloat fun _ => trivial
  · exact isStandard_of_uniform "Color32" 4 .byte Color32.parts (by decide +kernel)
      injective_color32 hbyte fun _ => trivial

end Proofs

end TypedTables
