import TypedTables.Wire.Form

/-!
# Composite values of emitted row types

The structures behind the types of the standard registry, as straight-line code: each reads its
components one after the other, from the text of a cell or from bytes.
-/

namespace TypedTables

/-- Two coordinates. -/
structure Vector2 where
  x : Single
  y : Single
deriving DecidableEq, Repr

/-- Three coordinates. -/
structure Vector3 where
  x : Single
  y : Single
  z : Single
deriving DecidableEq, Repr

/-- Four coordinates. -/
structure Vector4 where
  x : Single
  y : Single
  z : Single
  w : Single
deriving DecidableEq, Repr

/-- A colour in four parts between zero and one. -/
structure Color where
  r : Single
  g : Single
  b : Single
  a : Single
deriving DecidableEq, Repr

/-- A colour in four bytes. -/
structure Color32 where
  r : UInt8
  g : UInt8
  b : UInt8
  a : UInt8
deriving DecidableEq, Repr

instance : OfCell Vector2 where
  ofCell text := do
    let parts ← splitComponents text "Vector2" 2
    return ⟨← ofCell (parts.getD 0 ""), ← ofCell (parts.getD 1 "")⟩

instance : OfCell Vector3 where
  ofCell text := do
    let parts ← splitComponents text "Vector3" 3
    return ⟨← ofCell (parts.getD 0 ""), ← ofCell (parts.getD 1 ""), ← ofCell (parts.getD 2 "")⟩

instance : OfCell Vector4 where
  ofCell text := do
    let parts ← splitComponents text "Vector4" 4
    return ⟨← ofCell (parts.getD 0 ""), ← ofCell (parts.getD 1 ""), ← ofCell (parts.getD 2 ""),
      ← ofCell (parts.getD 3 "")⟩

instance : OfCell Color where
  ofCell text := do
    let parts ← splitComponents text "Color" 4
    return ⟨← ofCell (parts.getD 0 ""), ← ofCell (parts.getD 1 ""), ← ofCell (parts.getD 2 ""),
      ← ofCell (parts.getD 3 "")⟩

instance : OfCell Color32 where
  ofCell text := do
    let parts ← splitComponents text "Color32" 4
    return ⟨← ofCell (parts.getD 0 ""), ← ofCell (parts.getD 1 ""), ← ofCell (parts.getD 2 ""),
      ← ofCell (parts.getD 3 "")⟩

/-- Reads a composite as emitted code does. A fault is reported for the first field; the row that
the cell belongs to puts in the field's number. -/
def parseComposite {α : Type} [OfCell α] (text : String) : Except RowError α :=
  (ofCell text).mapError (RowError.conversion 0)

def Vector2.read : Read Vector2 := do
  return ⟨← Wire.read, ← Wire.read⟩

def Vector3.read : Read Vector3 := do
  return ⟨← Wire.read, ← Wire.read, ← Wire.read⟩

def Vector4.read : Read Vector4 := do
  return ⟨← Wire.read, ← Wire.read, ← Wire.read, ← Wire.read⟩

def Color.read : Read Color := do
  return ⟨← Wire.read, ← Wire.read, ← Wire.read, ← Wire.read⟩

def Color32.read : Read Color32 := do
  return ⟨← Wire.read, ← Wire.read, ← Wire.read, ← Wire.read⟩

end TypedTables
