import Std.Time.Zoned
import TypedTables.CommandLine.Linter

/-!
# The programs

The file operations of a real system, and the entry point of the generator and the linter. Which of
the two a program is follows from its own name. Nothing is decided here but how an operation of the
system is called and what its failures mean.
-/

namespace TypedTables.Programs

open CommandLine (Outcome)

/-- Programs on a real system, which know the least important lines of the log that are shown. -/
abbrev Host := ReaderT (Option LogLevel) IO

def faultOf (e : IO.Error) : FileFault :=
  match e with
  | .noFileOrDirectory .. => .notFound
  | .alreadyExists .. => .alreadyExists
  | .resourceBusy .. => .busy
  | .inappropriateType _ code _ =>
    if code = 20 then .notDirectory else if code = 21 then .isDirectory else .other (toString e)
  | .invalidArgument _ code _ => if code = 36 then .nameTooLong else .other (toString e)
  | _ => .other (toString e)

def attempt {α : Type} (operation : IO α) : Host (Except FileFault α) := fun _ => do
  match ← operation.toBaseIO with
  | .ok v => return .ok v
  | .error e => return .error (faultOf e)

/-- What kind of thing a path leads to, if to any. -/
def kindOf (p : Path) : IO (Option IO.FS.FileType) := do
  let place := (← IO.currentDir) / p.text
  match ← place.metadata.toBaseIO with
  | .ok found => return some found.type
  | .error _ => return none

def isFile (p : Path) : IO Bool := do
  return match ← kindOf p with
    | some .file => true
    | _ => false

def isDirectory (p : Path) : IO Bool := do
  return match ← kindOf p with
    | some .dir => true
    | _ => false

/-- Makes a file with the first unused of `left` names. -/
def createUnused (directory : Path) (number : Nat) : (left : Nat) → Host (Except FileFault Path)
  | 0 => return .error .alreadyExists
  | left + 1 => do
    let p := directory.join ⟨[s!".tmp{number}"]⟩
    match ← attempt (IO.FS.Handle.mk p.text .writeNew) with
    | .ok _ => return .ok p
    | .error .alreadyExists => createUnused directory (number + 1) left
    | .error fault => return .error fault

instance : FileSystem Host where
  isFile p := fun _ => isFile p
  isDirectory p := fun _ => isDirectory p
  readBytes p := attempt do return (← IO.FS.readBinFile p.text).toList
  writeBytes p bytes := attempt (IO.FS.writeBinFile p.text ⟨bytes.toArray⟩)
  createTemporary directory := createUnused directory 0 100000
  rename source target := attempt (IO.FS.rename source.text target.text)
  remove p := do
    if ← (isDirectory p : IO Bool) then return .error .isDirectory
    attempt (IO.FS.removeFile p.text)
  createDirectory p := attempt (IO.FS.createDir p.text)
  log line := do IO.eprint (CommandLine.Generator.shownLine (← read) line)

def timestamp : IO String := do
  let now ← Std.Time.PlainDateTime.now
  return CommandLine.Generator.timeText now.date.year.toNat now.date.month.toNat now.date.day.toNat
    now.time.hour.toNat now.time.minute.toNat now.time.second.toNat
    (now.time.nanosecond.toNat / 1000000)

def finish (o : Outcome) : IO UInt32 := do
  IO.print o.output
  IO.eprint o.errors
  return o.status.toUInt32

def generate (directory : Path) (args : List String) : IO UInt32 := do
  match CommandLine.Generator.parse args with
  | .error refusal => finish (CommandLine.Generator.refused refusal)
  | .ok call =>
    let time ← timestamp
    finish (← (CommandLine.Generator.run directory time call : Host Outcome).run call.verbosity)

def lint (directory : Path) (args : List String) : IO UInt32 := do
  match CommandLine.Linter.parse args with
  | .error refusal => finish (CommandLine.Linter.refused refusal)
  | .ok call => finish (← (CommandLine.Linter.run directory call : Host Outcome).run none)

end TypedTables.Programs

def main (args : List String) : IO UInt32 := do
  let directory := TypedTables.Path.ofText (toString (← IO.currentDir))
  if (toString (← IO.appPath)).endsWith TypedTables.CommandLine.Linter.name then
    TypedTables.Programs.lint directory args
  else TypedTables.Programs.generate directory args
