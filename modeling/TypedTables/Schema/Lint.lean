import TypedTables.Schema.Collection

/-!
# Judging column names

What would make the code emitted for a table wrong or impossible: names that are no identifiers,
names that the row type needs for itself, and names that meet each other or an accessor of a
collection. Two equal keys in a collection are only warned of, as lookups take the first.
-/

namespace TypedTables

/-- What is wrong with a column. -/
inductive LintCause where
  | invalidIdentifier (name : String)
  | reservedName (name snake : String)
  | duplicateName (earlier name snake : String)
  | mixedCollectionType (name keyword collection collectionKeyword : String)
  | invalidCollectionKey (fault : KeyFault)
  | accessorCollision (name accessor collection : String)
  | accessorShared (owner collection accessor : String)
  | duplicateCollectionKey (earlier name : String) (key : Int32)
deriving DecidableEq, Repr

/-- How bad a finding is. -/
inductive Severity where
  | error
  | warning
deriving DecidableEq, Repr

namespace LintCause

def rule : LintCause → String
  | invalidIdentifier .. => "invalid-identifier"
  | reservedName .. => "reserved-name"
  | duplicateName .. => "duplicate-name"
  | mixedCollectionType .. => "mixed-collection-type"
  | invalidCollectionKey .. => "invalid-collection-key"
  | accessorCollision .. | accessorShared .. => "accessor-collision"
  | duplicateCollectionKey .. => "duplicate-collection-key"

/-- Equal keys are worth a warning; everything else is an error. -/
def severity : LintCause → Severity
  | duplicateCollectionKey .. => .warning
  | _ => .error

def message : LintCause → String
  | invalidIdentifier name => s!"name '{name}' must match [A-Z][A-Za-z0-9_]*"
  | reservedName name snake => s!"name '{name}' maps to reserved identifier '{snake}'"
  | duplicateName earlier name snake => s!"name '{earlier}' and '{name}' both map to '{snake}'"
  | mixedCollectionType name keyword collection collectionKeyword =>
    s!"column '{name}' is {keyword} but collection '{collection}' is {collectionKeyword}"
  | invalidCollectionKey fault => fault.message
  | accessorCollision name accessor collection =>
    s!"name '{name}' collides with accessor '{accessor}' of collection '{collection}'"
  | accessorShared owner collection accessor =>
    s!"collections '{owner}' and '{collection}' both generate '{accessor}'"
  | duplicateCollectionKey earlier name key =>
    s!"columns '{earlier}' and '{name}' share key {key.toInt}"

end LintCause

/-- Something wrong with a column. -/
structure Finding where
  column : Nat
  name : String
  cause : LintCause
deriving DecidableEq, Repr

def Field.finding (f : Field) (cause : LintCause) : Finding := ⟨f.column, f.name, cause⟩

namespace Lint

open Naming (snakeCase)

/-- The names of what every row type holds. -/
def rowTypeItems : List String :=
  ["id", "parse_data_row", "parse_data_row_bytes", "read_data_row", "generate_property_array"]

/-- Whether a data column may not have this name in emitted code. -/
def isReserved (snake : String) : Bool :=
  rowTypeItems.contains snake || Naming.inexpressible.contains snake

/-- Judges the names of fields one by one. `seen` holds the emitted names so far, the latest first,
each with the column name it came from. -/
def nameFindings (seen : List (String × String)) : List Field → List Finding
  | [] => []
  | f :: rest =>
    let snake := snakeCase f.name
    if f.role = .data ∧ Naming.isColumnName f.name = false then
      f.finding (.invalidIdentifier f.name) :: nameFindings seen rest
    else if f.role = .data ∧ isReserved snake = true then
      f.finding (.reservedName f.name snake) :: nameFindings seen rest
    else
      let tail := nameFindings ((snake, f.name) :: seen) rest
      match seen.lookup snake with
      | some earlier => f.finding (.duplicateName earlier f.name snake) :: tail
      | none => tail

def accessors (c : Collection) : List String :=
  let stem := snakeCase c.name
  [stem ++ "_count", "get_" ++ stem, "get_" ++ stem ++ "_at", stem ++ "_items"]

def fieldCollisions (s : Schema) (c : Collection) : List Finding :=
  s.fields.filterMap fun f =>
    let snake := snakeCase f.name
    if (accessors c).contains snake then
      some (f.finding (.accessorCollision f.name snake c.name))
    else none

/-- Accessors of a collection that an earlier one already has, and the accessors known after it.
`owners` holds each accessor with the collection that had it first. -/
def sharedAccessors (first : CollectionItem) (collection : String)
    (owners : List (String × String)) : List String → List Finding × List (String × String)
  | [] => ([], owners)
  | accessor :: rest =>
    match owners.lookup accessor with
    | some owner =>
      let (found, owners) := sharedAccessors first collection owners rest
      (⟨first.column, first.name, .accessorShared owner collection accessor⟩ :: found, owners)
    | none => sharedAccessors first collection ((accessor, collection) :: owners) rest

/-- Columns of a collection that have not its type, or share a key with an earlier one. `keys`
holds the keys so far, the latest first, each with its column name. -/
def itemFindings (s : Schema) (c : Collection) (keys : List (Int32 × String)) :
    List CollectionItem → List Finding
  | [] => []
  | item :: rest =>
    let mixed := match s.fields.find? (·.column == item.column) with
      | some f =>
        if f.type ≠ c.type ∨ f.keyword ≠ c.keyword then
          [⟨item.column, item.name, .mixedCollectionType item.name f.keyword c.name c.keyword⟩]
        else []
      | none => []
    let repeated := match keys.lookup item.key with
      | some earlier =>
        [⟨item.column, item.name, .duplicateCollectionKey earlier item.name item.key⟩]
      | none => []
    mixed ++ repeated ++ itemFindings s c ((item.key, item.name) :: keys) rest

def collectionFindings (s : Schema) (owners : List (String × String)) :
    List Collection → List Finding
  | [] => []
  | c :: rest =>
    let (shared, owners) := match c.items.head? with
      | some first => sharedAccessors first c.name owners (accessors c)
      | none => ([], owners)
    fieldCollisions s c ++ shared ++ itemFindings s c [] c.items ++
      collectionFindings s owners rest

/-- The column a key fault is reported on: the first data column whose name occurs in the wording
of the fault. -/
def keyFinding (s : Schema) (fault : KeyFault) : Finding :=
  match s.dataFields.find? fun f => Text.occursIn f.name.toList fault.message.toList with
  | some f => f.finding (.invalidCollectionKey fault)
  | none => ⟨0, "", .invalidCollectionKey fault⟩

/-- Findings in the order of their columns; those on one column stay in the order given. -/
def byColumn (findings : List Finding) : List Finding :=
  findings.mergeSort fun a b => a.column ≤ b.column

end Lint

def Schema.lint (s : Schema) : List Finding :=
  let names := Lint.nameFindings [] s.fields
  match s.collections with
  | .error fault => Lint.byColumn (names ++ [Lint.keyFinding s fault])
  | .ok collections => Lint.byColumn (names ++ Lint.collectionFindings s [] collections)

def errorFindings (findings : List Finding) : List Finding :=
  findings.filter fun m => m.cause.severity == .error

end TypedTables
