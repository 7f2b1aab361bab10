import TypedTables.ColumnType.Registry
import TypedTables.Proofs.ColumnType.Cell
import TypedTables.Row.Composite

/-!
# Properties and column types

A row type holds its values in types of its own, where a schema has one type of values for all
columns. `Represents t read value` says that the two are read alike, from the text of a cell and
from bytes: also what they refuse, with which error, and where they leave the reader.
-/

namespace TypedTables

/-- The value of a vector in a column of its type. -/
def Vector3.value (v : Vector3) : Value := .composite [.float v.x, .float v.y, .float v.z]

def Vector2.parts (v : Vector2) : List Single := [v.x, v.y]

def Vector3.parts (v : Vector3) : List Single := [v.x, v.y, v.z]

def Vector4.parts (v : Vector4) : List Single := [v.x, v.y, v.z, v.w]

def Color.parts (c : Color) : List Single := [c.r, c.g, c.b, c.a]

def Color32.parts (c : Color32) : List UInt8 := [c.r, c.g, c.b, c.a]

namespace Proofs

/-- Column types whose values are those of a type of properties, and are read as these are. -/
class Represents {α : outParam Type} (t : ColumnType) [OfCell α] (read : outParam (Read α))
    (value : outParam (α → Value)) : Prop where
  parse : ∀ text, t.parse text = value <$> ofCell text
  read : t.read = value <$> read

lemma represents_builtin {α : Type} [OfCell α] [Wire α] {b : Builtin} {value : α → Value}
    (hparse : b.parse = fun text => value <$> ofCell text) (hread : b.read = value <$> Wire.read) :
    Represents (.builtin b) Wire.read value where
  parse text := by rw [ColumnType.parse, hparse]
  read := by rw [ColumnType.read, hread]

instance : Represents (.builtin .bool) Wire.read Value.bool := represents_builtin rfl rfl

instance : Represents (.builtin .byte) Wire.read Value.byte := represents_builtin rfl rfl

instance : Represents (.builtin .uint16) Wire.read Value.uint16 := represents_builtin rfl rfl

instance : Represents (.builtin .int32) Wire.read Value.int32 := represents_builtin rfl rfl

instance : Represents (.builtin .int64) Wire.read Value.int64 := represents_builtin rfl rfl

instance : Represents (.builtin .float) Wire.read Value.float := represents_builtin rfl rfl

instance : Represents (.builtin .string) Wire.read Value.string := represents_builtin rfl rfl

/-! ### Composites of one type of components -/

section Uniform

variable {α β : Type} [OfCell α] [OfCell β] [Wire β] {b : Builtin} {wrap : β → Value}
variable [Represents (.builtin b) Wire.read wrap]

lemma parseEach_replicate (texts : List String) :
    ColumnType.parseEach (List.replicate texts.length (.builtin b)) texts =
      List.map wrap <$> texts.mapM ofCell := by
  induction texts with
  | nil => rfl
  | cons text texts ih =>
    rw [List.length_cons, List.replicate_succ, ColumnType.parseEach, ih, Represents.parse,
      List.mapM_cons]
    simp

lemma readEach_replicate (count : Nat) : ColumnType.readEach (List.replicate count (.builtin b)) =
    List.map wrap <$> (List.replicate count (Wire.read : Read β)).mapM id := by
  induction count with
  | zero => rfl
  | succ count ih =>
    rw [List.replicate_succ, ColumnType.readEach, ih, Represents.read, List.replicate_succ,
      List.mapM_cons]
    simp

/-- A composite is read like the type with as many components of one type, if its parts are read one
after the other. -/
lemma represents_uniform {name : String} {count : Nat} {read : Read α}
    {build : List String → Except CellFault α} (parts : α → List β)
    (hcell : ∀ text, ofCell text = splitComponents text name count >>= build)
    (hbuild : ∀ texts : List String, texts.length = count → parts <$> build texts = texts.mapM ofCell)
    (hread : parts <$> read = (List.replicate count (Wire.read : Read β)).mapM id) :
    Represents (Registry.uniform name count b).columnType read
      fun v => .composite ((parts v).map wrap) where
  parse text := by
    rw [hcell, map_bind, CustomType.columnType, Registry.uniform, CustomType.ofComponents,
      ColumnType.parse, List.length_replicate]
    apply bind_congr_ok
    intro texts htexts
    obtain rfl := (splitComponents_eq_ok htexts).2
    have hparts : (fun v => Value.composite ((parts v).map wrap)) <$> build texts =
        (fun xs => Value.composite (xs.map wrap)) <$> (parts <$> build texts) := by
      rw [Functor.map_map]
    rw [hparts, hbuild texts rfl, parseEach_replicate]
    simp
  read := by
    have hparts : (fun v => Value.composite ((parts v).map wrap)) <$> read =
        (fun xs => Value.composite (xs.map wrap)) <$> (parts <$> read) := by
      rw [Functor.map_map]
    rw [hparts, hread, CustomType.columnType, Registry.uniform, CustomType.ofComponents,
      ColumnType.read, readEach_replicate]
    simp

end Uniform

instance : Represents (Registry.uniform "Vector3" 3 .float).columnType Vector3.read Vector3.value :=
  represents_uniform Vector3.parts (fun _ => rfl)
    (by
      intro texts htexts
      obtain ⟨x, y, z, rfl⟩ := List.length_eq_three.mp htexts
      simp [Vector3.parts])
    (by simp [Vector3.read, Vector3.parts, List.replicate])

instance : Represents (Registry.uniform "Vector2" 2 .float).columnType Vector2.read
    (fun v => .composite (v.parts.map Value.float)) :=
  represents_uniform Vector2.parts (fun _ => rfl)
    (by
      intro texts htexts
      obtain ⟨x, y, rfl⟩ := List.length_eq_two.mp htexts
      simp [Vector2.parts])
    (by simp [Vector2.read, Vector2.parts, List.replicate])

instance : Represents (Registry.uniform "Vector4" 4 .float).columnType Vector4.read
    (fun v => .composite (v.parts.map Value.float)) :=
  represents_uniform Vector4.parts (fun _ => rfl)
    (by
      intro texts htexts
      obtain ⟨x, y, z, w, rfl⟩ := List.length_eq_four.mp htexts
      simp [Vector4.parts])
    (by simp [Vector4.read, Vector4.parts, List.replicate])

instance : Represents (Registry.uniform "Color" 4 .float).columnType Color.read
    (fun v => .composite (v.parts.map Value.float)) :=
  represents_uniform Color.parts (fun _ => rfl)
    (by
      intro texts htexts
      obtain ⟨r, g, b, a, rfl⟩ := List.length_eq_four.mp htexts
      simp [Color.parts])
    (by simp [Color.read, Color.parts, List.replicate])

instance : Represents (Registry.uniform "Color32" 4 .byte).columnType Color32.read
    (fun v => .composite (v.parts.map Value.byte)) :=
  represents_uniform Color32.parts (fun _ => rfl)
    (by
      intro texts htexts
      obtain ⟨r, g, b, a, rfl⟩ := List.length_eq_four.mp htexts
      simp [Color32.parts])
    (by simp [Color32.read, Color32.parts, List.replicate])

end Proofs

end TypedTables
