import TypedTables.Schema

/-!
# Collections

Data columns whose names differ only in the number at their end belong together: `Reward1` and
`Reward2` are the entries of a collection `Reward`, under the keys 1 and 2.
-/

namespace TypedTables

/-- A column of a collection with its key. -/
structure CollectionItem where
  key : Int32
  column : Nat
  name : String
deriving DecidableEq, Repr

/-- Columns that share a name up to their number. Type and keyword are those of the first. -/
structure Collection where
  name : String
  type : ColumnType
  keyword : String
  items : List CollectionItem

def Collection.keys (c : Collection) : List Int32 := c.items.map CollectionItem.key

/-- A column whose number is no key: it is too large, or not written in ASCII digits. -/
structure KeyFault where
  name : String
  digits : String
deriving DecidableEq, Repr

def KeyFault.message (fault : KeyFault) : String :=
  s!"column {fault.name}: suffix '{fault.digits}' does not fit in i32"

/-- Puts a column into the collection of its name, which is made at the end if it is not there. -/
def addToCollection (stem : String) (f : Field) (key : Int32) : List Collection → List Collection
  | [] => [⟨stem, f.type, f.keyword, [⟨key, f.column, f.name⟩]⟩]
  | c :: rest =>
    if c.name = stem then { c with items := c.items ++ [⟨key, f.column, f.name⟩] } :: rest
    else c :: addToCollection stem f key rest

def collectionKey? (digits : String) : Option Int32 :=
  match Number.parseInteger (-2147483648) 2147483647 digits.toList with
  | .ok key => some (Int32.ofInt key)
  | .error _ => none

/-- Puts a field into its collection, if its name ends in a number. -/
def collectField (collections : List Collection) (f : Field) :
    Except KeyFault (List Collection) :=
  match Naming.numericSuffix? f.name with
  | none => .ok collections
  | some (stem, digits) =>
    match collectionKey? digits with
    | some key => .ok (addToCollection stem f key collections)
    | none => .error ⟨f.name, digits⟩

/-- The collections of a schema, in the order of their first columns. -/
def Schema.collections (s : Schema) : Except KeyFault (List Collection) :=
  s.dataFields.foldlM collectField []

end TypedTables
