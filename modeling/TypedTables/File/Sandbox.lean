import TypedTables.File.System
import TypedTables.File.Tree

/-!
# Sandboxes

File operations on a tree of files that is kept as a state. A failed operation leaves the tree as
it is; the log grows at its end.
-/

namespace TypedTables

/-- The files, and what was told so far. -/
structure Sandbox where
  tree : Tree
  log : List LogLine

abbrev Sandboxed := StateM Sandbox

namespace Sandbox

def observe {α : Type} (question : Tree → α) : Sandboxed α := fun s => (question s.tree, s)

/-- A change of the tree, which is made if it succeeds. -/
def change (operation : Tree → Except FileFault Tree) : Sandboxed (Except FileFault Unit) :=
  fun s =>
    match operation s.tree with
    | .ok tree => (.ok (), { s with tree })
    | .error fault => (.error fault, s)

def createTemporary (directory : Path) : Sandboxed (Except FileFault Path) := fun s =>
  match s.tree.createTemporary directory with
  | .ok (p, tree) => (.ok p, { s with tree })
  | .error fault => (.error fault, s)

instance : FileSystem Sandboxed where
  isFile p := observe (·.isFile p)
  isDirectory p := observe (·.isDirectory p)
  readBytes p := observe (·.readBytes p)
  writeBytes p bytes := change (·.writeBytes p bytes)
  createTemporary := createTemporary
  rename source target := change (·.rename source target)
  remove p := change (·.remove p)
  createDirectory p := change (·.createDirectory p)
  log line := fun s => ((), { s with log := s.log ++ [line] })

end Sandbox

end TypedTables
