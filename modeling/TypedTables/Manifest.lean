import TypedTables.File.System

/-!
# Manifests

The file that lists the names of a batch's tables: a JSON array of strings. One that is missing,
blank or empty lists no tables, which is an error of its own.
-/

namespace TypedTables.Manifest

/-- Why a text is no list of names: it was refused with so many characters left. -/
abbrev Refusal := Nat

/-- What has been seen of a string. -/
inductive StringMode where
  | plain
  | escaped
  /-- Digits of a code still to come, the value of those seen, and the first half of a pair. -/
  | code (left value : Nat) (high : Option Nat)
  /-- A first half of a pair, which another code must follow. -/
  | half (high : Nat)
  | halfEscaped (high : Nat)
deriving DecidableEq, Repr

/-- The character that a letter behind a backslash stands for. -/
def shortEscape? : Char → Option Char
  | '"' => some '"'
  | '\\' => some '\\'
  | '/' => some '/'
  | 'b' => some '\x08'
  | 'f' => some '\x0c'
  | 'n' => some '\n'
  | 'r' => some '\x0d'
  | 't' => some '\t'
  | _ => none

/-- Whether a code is the first half of a pair. -/
def isHigh (code : Nat) : Bool := decide (0xD800 ≤ code ∧ code < 0xDC00)

def isLow (code : Nat) : Bool := decide (0xDC00 ≤ code ∧ code < 0xE000)

/-- Puts a character before what is read. -/
def prepend (c : Char) (result : Except Refusal (List Char × List Char)) :
    Except Refusal (List Char × List Char) :=
  result.map fun p => (c :: p.1, p.2)

/-- Reads a string behind its opening quote: its characters, and what is left of the text. -/
def readString (mode : StringMode) : List Char → Except Refusal (List Char × List Char)
  | [] => .error 0
  | c :: rest =>
    let refuse : Except Refusal (List Char × List Char) := .error (rest.length + 1)
    let next (m : StringMode) : Except Refusal (List Char × List Char) := readString m rest
    match mode with
    | .plain =>
      if c = '"' then .ok ([], rest)
      else if c = '\\' then next .escaped
      else if c.toNat < 32 then refuse
      else prepend c (next .plain)
    | .escaped =>
      if c = 'u' then next (.code 4 0 none)
      else match shortEscape? c with
        | some e => prepend e (next .plain)
        | none => refuse
    | .code left value high =>
      match Text.hexValue? c with
      | none => refuse
      | some digit =>
        let value := 16 * value + digit
        if 1 < left then next (.code (left - 1) value high)
        else match high with
          | some first =>
            if isLow value then
              prepend (Char.ofNat (0x10000 + (first - 0xD800) * 0x400 + (value - 0xDC00)))
                (next .plain)
            else refuse
          | none =>
            if isHigh value then next (.half value)
            else if isLow value then refuse
            else prepend (Char.ofNat value) (next .plain)
    | .half high => if c = '\\' then next (.halfEscaped high) else refuse
    | .halfEscaped high => if c = 'u' then next (.code 4 0 (some high)) else refuse

/-- Whether a character may stand between the parts of a list. -/
def isSpace (c : Char) : Bool := c == ' ' || c == '\t' || c == '\n' || c == '\x0d'

/-- Reads the strings of a list from the next one on, and its closing bracket; at most `fuel`. -/
def readItems : (fuel : Nat) → List Char → Except Refusal (List String × List Char)
  | 0, cs => .error cs.length
  | fuel + 1, cs =>
    match cs with
    | '"' :: rest => do
      let (content, rest) ← readString .plain rest
      match rest.dropWhile isSpace with
      | ',' :: rest => do
        let (items, rest) ← readItems fuel (rest.dropWhile isSpace)
        return (String.ofList content :: items, rest)
      | ']' :: rest => return ([String.ofList content], rest)
      | rest => throw rest.length
    | _ => .error cs.length

def parse (text : String) : Except Refusal (List String) := do
  let cs := text.toList.dropWhile isSpace
  match cs with
  | '[' :: rest =>
    let rest := rest.dropWhile isSpace
    let (names, rest) ← match rest with
      | ']' :: rest => pure ([], rest)
      | _ => readItems (rest.length + 1) rest
    match rest.dropWhile isSpace with
    | [] => return names
    | rest => throw rest.length
  | _ => throw cs.length

/-- The names in the text of the manifest at a path; there must be some. -/
def names (p : Path) (text : String) : Except SetupFault (List String) := do
  if Text.isAllBlank text then throw (.emptyManifest p)
  let names ← (parse text).mapError (SetupFault.badManifest p)
  if names.isEmpty then throw (.emptyManifest p)
  return names

variable {m : Type → Type} [Monad m] [FileSystem m]

def load (p : Path) : Task m (List String) := do
  match ← (FileSystem.readText p : m (Except FileFault String)) with
  | .ok text => ofExcept ((names p text).mapError TableError.configuration)
  | .error .notFound => throw (.configuration (.emptyManifest p))
  | .error fault => throw (.file p fault)

end TypedTables.Manifest
