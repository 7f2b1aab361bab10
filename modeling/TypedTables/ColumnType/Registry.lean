import TypedTables.ColumnType
import TypedTables.Naming

/-!
# Registry of custom types

The custom types that type keywords may name besides the builtin ones. Lookup ignores the case of
ASCII letters and the white space around the keyword; registration refuses what lookup would
already find.
-/

namespace TypedTables

/-- A type put together from components. -/
structure CustomType where
  name : String
  typeText : String
  components : List ColumnType
  copies : Bool
deriving DecidableEq

namespace CustomType

/-- A type whose name is also its name in emitted code, handed out as copies. -/
def ofComponents (name : String) (components : List ColumnType) : CustomType :=
  ⟨name, name, components, true⟩

def columnType (c : CustomType) : ColumnType :=
  .custom c.name c.typeText c.copies c.components

def parseFunction (name : String) : String := "parse_" ++ Naming.snakeCase name

def readFunction (name : String) : String := "read_" ++ Naming.snakeCase name

end CustomType

/-- Why a custom type cannot be registered. -/
inductive RegistrationFault where
  | noComponents (name : String)
  | notScalar (name component : String)
  | alreadyDefined (name : String)
deriving DecidableEq, Repr

def RegistrationFault.message : RegistrationFault → String
  | noComponents name => s!"custom type {name} has no components"
  | notScalar name component => s!"custom type {name}: component {component} is not a scalar"
  | alreadyDefined name => s!"type {name} is already defined"

/-- Whether a type may be a component of a registered type: builtin, and no string. -/
def ColumnType.isScalar : ColumnType → Bool
  | .builtin b => b != .string
  | .custom .. => false

/-- The registered custom types, in the order of their registration. -/
structure Registry where
  customs : List CustomType

namespace Registry

/-- The registry without custom types. -/
def empty : Registry := ⟨[]⟩

def uniform (name : String) (count : Nat) (component : Builtin) : CustomType :=
  .ofComponents name (List.replicate count (.builtin component))

/-- The registry of the types that every emitted row type can use. -/
def standard : Registry := ⟨[
  uniform "Vector2" 2 .float,
  uniform "Vector3" 3 .float,
  uniform "Vector4" 4 .float,
  uniform "Color" 4 .float,
  uniform "Color32" 4 .byte]⟩

def find? (r : Registry) (keyword : String) : Option CustomType :=
  r.customs.find? fun c => Text.sameIgnoringAsciiCase c.name (Text.trim keyword)

/-- The type that a keyword names. Builtin keywords come first. -/
def resolve (r : Registry) (keyword : String) : Option ColumnType :=
  match Builtin.ofKeyword? keyword with
  | some b => some (.builtin b)
  | none => (r.find? keyword).map CustomType.columnType

/-- Adds a custom type. Its components must be scalars, and its name must not be taken. -/
def register (r : Registry) (c : CustomType) : Except RegistrationFault Registry :=
  if c.components.isEmpty then .error (.noComponents c.name)
  else match c.components.find? (fun t => !t.isScalar) with
    | some component => .error (.notScalar c.name component.typeText)
    | none =>
      if (Builtin.ofKeyword? c.name).isSome || (r.find? c.name).isSome then
        .error (.alreadyDefined c.name)
      else .ok ⟨r.customs ++ [c]⟩

end Registry

end TypedTables
