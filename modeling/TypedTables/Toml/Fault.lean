/-!
# Faults of a settings document

Why a document is refused, either by its grammar or by the settings that are taken from it.
-/

namespace TypedTables.Toml

/-- Why a document cannot be taken as settings. -/
inductive Fault where
  /-- The text breaks the grammar; `remaining` characters were still to be read. -/
  | malformed (remaining : Nat)
  | duplicateKey (key : String)
  | unknownKey (key : String)
  /-- The value of a key is not of the kind the setting needs. -/
  | wrongKind (expected : String)
deriving DecidableEq, Repr

def Fault.message : Fault → String
  | malformed remaining => s!"malformed document, {remaining} characters before its end"
  | duplicateKey key => s!"key '{key}' is given twice"
  | unknownKey key => s!"unknown key '{key}'"
  | wrongKind expected => s!"expected {expected}"

end TypedTables.Toml
