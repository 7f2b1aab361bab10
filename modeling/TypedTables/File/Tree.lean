import TypedTables.File.Fault
import TypedTables.File.Path
import TypedTables.Number.Digits

/-!
# File trees

What the files of a system hold, as a value: which places are directories and which are files with
which bytes. A place is told by the names on the way to it from the top, so a file has one place
however its path is spelled: from the top, from the working directory, or through directories that
the path leaves again. There are no links. The working directory and the directories it is in are
always there. Names and whole paths have a greatest size. The operations say exactly what they
change.
-/

namespace TypedTables

/-- A place in a tree: the names on the way to it from the top. -/
structure Location where
  names : List String
deriving DecidableEq, Repr

namespace Location

def top : Location := ⟨[]⟩

def child (l : Location) (name : String) : Location := ⟨l.names ++ [name]⟩

/-- The place that a place is in. The top is in itself. -/
def parent (l : Location) : Location := ⟨l.names.dropLast⟩

end Location

/-- What is at a place. -/
inductive Node where
  | directory
  | file (bytes : List UInt8)
deriving DecidableEq, Repr

/-- Files and directories, seen from a working directory. Of two entries for one place the first
counts. -/
structure Tree where
  working : Location
  entries : List (Location × Node)
deriving Repr

namespace Tree

/-- A tree without files. -/
def empty (working : Location) : Tree := ⟨working, []⟩

variable (t : Tree)

/-- Whether a place is the working directory or above it. -/
def isFixed (l : Location) : Bool := l.names.isPrefixOf t.working.names

def node? (l : Location) : Option Node :=
  if t.isFixed l then some .directory else t.entries.lookup l

def put (l : Location) (n : Node) : Tree :=
  { t with entries := (l, n) :: t.entries.filter (·.1 != l) }

/-- The tree without anything at one place. -/
def drop (l : Location) : Tree := { t with entries := t.entries.filter (·.1 != l) }

/-- A place that must be a directory. -/
def enter (l : Location) : Except FileFault Unit :=
  match t.node? l with
  | some .directory => .ok ()
  | some (.file _) => .error .notDirectory
  | none => .error .notFound

/-- How many bytes a name may have. -/
def maxNameSize : Nat := 255

/-- How many bytes a path may have. -/
def maxPathSize : Nat := 4095

/-- Names must not be too long. -/
def checkName (name : String) : Except FileFault Unit :=
  if maxNameSize < name.utf8ByteSize then .error .nameTooLong else .ok ()

/-- Follows one piece of a path from a place, which must be a directory. -/
def step (l : Location) (piece : String) : Except FileFault Location := do
  t.enter l
  if Path.isIdle piece then return l
  else if piece = ".." then return l.parent
  else
    checkName piece
    return l.child piece

/-- The place where a path starts. The path must have a text, though not too long a one. -/
def start (p : Path) : Except FileFault Location :=
  if p.isEmpty then .error .notFound
  else if !p.isNameable then .error .invalidName
  else if maxPathSize < p.text.utf8ByteSize then .error .nameTooLong
  else .ok (if p.isAbsolute then .top else t.working)

/-- The place that a path leads to. There need not be anything yet, but all places on the way must
be directories. -/
def locate (p : Path) : Except FileFault Location := do
  p.pieces.foldlM t.step (← t.start p)

def find (p : Path) : Except FileFault Node := do
  match t.node? (← t.locate p) with
  | some n => return n
  | none => throw .notFound

def isFile (p : Path) : Bool :=
  match t.find p with
  | .ok (.file _) => true
  | _ => false

def isDirectory (p : Path) : Bool :=
  match t.find p with
  | .ok .directory => true
  | _ => false

def readBytes (p : Path) : Except FileFault (List UInt8) := do
  match ← t.find p with
  | .file bytes => return bytes
  | .directory => throw .isDirectory

def writeBytes (p : Path) (bytes : List UInt8) : Except FileFault Tree := do
  let l ← t.locate p
  match t.node? l with
  | some (.file _) => return t.put l (.file bytes)
  | some .directory => throw .isDirectory
  | none => throw .notFound

def remove (p : Path) : Except FileFault Tree := do
  let l ← t.locate p
  match t.node? l with
  | some (.file _) => return t.drop l
  | some .directory => throw .isDirectory
  | none => throw .notFound

/-- The last step of a path without slashes behind it: the place where it is made, and the piece
itself. -/
def lastStep (p : Path) : Except FileFault (Location × String) := do
  let pieces := p.pieces.take 1 ++ Text.dropEndWhile String.isEmpty (p.pieces.drop 1)
  let l ← pieces.dropLast.foldlM t.step (← t.start p)
  t.enter l
  let name := pieces.getLastD ""
  checkName name
  return (l, name)

/-- Moves a file to another path, in one step. A file that is there already is replaced. -/
def rename (source target : Path) : Except FileFault Tree := do
  let l ← t.locate source
  let bytes ← t.readBytes source
  let (directory, name) ← t.lastStep target
  if Path.isIdle name ∨ name = ".." then throw .busy
  if target.pieces.getLast? = some "" then throw .notDirectory
  match t.node? (directory.child name) with
  | some .directory => throw .isDirectory
  | _ => return (t.drop l).put (directory.child name) (.file bytes)

def createDirectory (p : Path) : Except FileFault Tree := do
  let (directory, name) ← t.lastStep p
  if Path.isIdle name ∨ name = ".." then throw .alreadyExists
  match t.node? (directory.child name) with
  | some _ => throw .alreadyExists
  | none => return t.put (directory.child name) .directory

def temporaryName (number : Nat) : String := s!".tmp{Number.natText (100000 + number)}"

/-- The first path of a temporary file in a directory that leads to nothing. Two more numbers than
there are entries are enough to find it: at most one of the places is on the way to the working
directory. -/
def unusedPath? (directory : Path) : Option Path :=
  ((List.range (t.entries.length + 2)).map fun number =>
    directory.join ⟨[temporaryName number]⟩).find? fun p => (t.find p).toOption.isNone

def createTemporary (directory : Path) : Except FileFault (Path × Tree) :=
  match t.unusedPath? directory with
  | some p => do return (p, t.put (← t.locate p) (.file []))
  | none => .error .alreadyExists

end Tree

end TypedTables
