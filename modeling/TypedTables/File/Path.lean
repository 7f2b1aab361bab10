import TypedTables.Text.Blank
import TypedTables.Text.Split

/-!
# Paths

Paths as they are written: the pieces between the slashes, so that a path has exactly one text. A
path is absolute if its text starts with a slash. Two paths with the same steps lead to the same
place, though their texts may differ.
-/

namespace TypedTables

/-- A path: what stands between its slashes. -/
structure Path where
  pieces : List String
deriving DecidableEq, Repr

namespace Path

def ofText (text : String) : Path := ⟨Text.fieldsOn '/' text⟩

def text (p : Path) : String := Text.joinWith "/" p.pieces

def here : Path := ⟨["."]⟩

/-- Whether the path has no text at all. -/
def isEmpty (p : Path) : Bool := p.pieces.all String.isEmpty && p.pieces.length ≤ 1

def isAbsolute (p : Path) : Bool :=
  match p.pieces with
  | "" :: _ :: _ => true
  | _ => false

/-- Whether the path can name anything: no piece holds the character with the number zero. -/
def isNameable (p : Path) : Bool := p.pieces.all fun piece => !piece.toList.contains '\x00'

/-- A path seen from a directory. An absolute path is its own; otherwise there is one slash between
the two, and none if the directory has no text. -/
def join (directory p : Path) : Path :=
  if p.isAbsolute then p
  else if directory.pieces.getLast? = some "" then ⟨directory.pieces.dropLast ++ p.pieces⟩
  else ⟨directory.pieces ++ p.pieces⟩

/-- Whether a piece leads nowhere: two slashes in a row are as good as one, and a single dot is the
place where it stands. -/
def isIdle (piece : String) : Bool := piece == "" || piece == "."

/-- The pieces without idle ones at the end; the first piece always stays. -/
def trimmed : List String → List String
  | [] => []
  | first :: rest => first :: Text.dropEndWhile isIdle rest

/-- The path without its last step. Paths of no step, and the top, have none. -/
def parent? (p : Path) : Option Path :=
  match trimmed p.pieces with
  | [] => none
  | [first] => if first = "" then none else some ⟨[""]⟩
  | first :: rest =>
    match trimmed (first :: rest.dropLast) with
    | [""] => some ⟨["", ""]⟩
    | pieces => some ⟨pieces⟩

def directory (p : Path) : Path :=
  match p.parent? with
  | some parent => if parent.isEmpty then here else parent
  | none => here

/-- The steps of a path: whether it starts at the top, and the pieces that are not idle. A single
dot at the start of a path counts as a step. -/
def steps (p : Path) : Bool × List String :=
  match p.pieces with
  | "." :: rest => (false, "." :: rest.filter fun piece => !isIdle piece)
  | pieces => (p.isAbsolute, pieces.filter fun piece => !isIdle piece)

/-- Whether two paths have the same steps. -/
def same (p q : Path) : Bool := p.steps == q.steps

end Path

end TypedTables
