import TypedTables.Text.Split
import TypedTables.Toml.Scalar

/-!
# Settings documents

Reading a document: lines of keys and values, under headers that name the table they belong to. All
parsers take the characters that are left and give back those that they leave. A line end is a line
feed, before which a carriage return is ignored.
-/

namespace TypedTables.Toml

abbrev Parse := StateT (List Char) (Except Fault)

namespace Parse

def refuse {α : Type} : Parse α := fun cs => .error (.malformed cs.length)

def ofExcept {α : Type} (result : Except Fault α) : Parse α := fun cs => result.map (·, cs)

/-- Leaves behind the characters from here on that satisfy `p`. -/
def span (p : Char → Bool) : Parse (List Char) := fun cs =>
  .ok (cs.takeWhile p, cs.dropWhile p)

/-- Leaves behind spaces and tabs. -/
def blanks : Parse Unit := do
  let _ ← span isBlank

/-- Whether the given characters are next; if so, they are left behind. -/
def next? (expected : List Char) : Parse Bool := fun cs =>
  if expected.isPrefixOf cs then .ok (true, cs.drop expected.length) else .ok (false, cs)

def expect (c : Char) : Parse Unit := do
  if !(← next? [c]) then refuse

/-- Leaves behind blanks, line ends and comments. A comment reaches to the end of its line. -/
def fillerFrom (inComment : Bool) : List Char → List Char
  | [] => []
  | c :: rest =>
    if c = '\n' then fillerFrom false rest
    else if inComment then if isPlain c then fillerFrom true rest else c :: rest
    else if c = '#' then fillerFrom true rest
    else if isBlank c then fillerFrom false rest
    else c :: rest

/-- Leaves behind blanks, line ends and comments. -/
def filler : Parse Unit := fun cs => .ok ((), fillerFrom false cs)

/-- Expects the end of a line, perhaps behind a comment. -/
def lineEnd : Parse Unit := do
  blanks
  if ← next? ['#'] then
    let _ ← span isPlain
  fun cs =>
    match cs with
    | [] => .ok ((), [])
    | '\n' :: rest => .ok ((), rest)
    | _ => refuse cs

/-- The rest of a quoted string, behind its opening quotes. -/
def quoted (style : QuoteStyle) : Parse String := fun cs =>
  match style.read .plain cs with
  | some (content, rest) => .ok (String.ofList content, rest)
  | none => refuse cs

/-- A quoted string that is next, if there is one. Only values may span lines. A line end right
behind the opening quotes of a string that spans lines is not part of it. -/
def quoted? (maySpanLines : Bool) : Parse (Option String) := fun cs =>
  match cs with
  | [] => .ok (none, cs)
  | c :: rest =>
    if c = '"' ∨ c = '\'' then
      if maySpanLines ∧ [c, c].isPrefixOf rest then
        let content := rest.drop 2
        (some <$> quoted ⟨c, true⟩) (if content.head? = some '\n' then content.drop 1 else content)
      else (some <$> quoted ⟨c, false⟩) rest
    else .ok (none, cs)

/-- Whether a character may stand in a key without quotes. -/
def isKeyChar (c : Char) : Bool := isWordChar c && c != '+' && c != '.' && c != ':'

def keyPart : Parse String := do
  blanks
  let part ← match ← quoted? false with
    | some s => pure s
    | none =>
      let word ← span isKeyChar
      if word.isEmpty then refuse
      pure (String.ofList word)
  blanks
  return part

/-- The parts of a key behind the first, at most `fuel`. -/
def keyParts : (fuel : Nat) → Parse (List String)
  | 0 => refuse
  | fuel + 1 => do
    if ← next? ['.'] then return (← keyPart) :: (← keyParts fuel) else return []

/-- How many brackets and braces may be open at once, and how many parts a key may have. -/
def maxNesting : Nat := 79

/-- A key: the parts on the way, and the last one. -/
def key : Parse (List String × String) := do
  let first ← keyPart
  let more ← keyParts (← get).length.succ
  let parts := first :: more
  if maxNesting < parts.length then refuse
  return (parts.dropLast, parts.getLastD first)

mutual

/-- A value that has at most `fuel` parts, and in which at most `levels` brackets and braces are
open at once. -/
def value (levels : Nat) : (fuel : Nat) → Parse Value
  | 0 => refuse
  | fuel + 1 => do
    if let some s ← quoted? true then return .string s
    if ← next? ['['] then
      if levels = 0 then refuse
      filler
      if ← next? [']'] then return .array []
      return .array (← items (levels - 1) fuel)
    if ← next? ['\x7b'] then
      if levels = 0 then refuse
      blanks
      if ← next? ['\x7d'] then return .table .inline []
      return .table .inline (← pairs (levels - 1) [] fuel)
    fun cs =>
      let (word, rest) := cutWord cs
      match scalar? word with
      | some v => .ok (v, rest)
      | none => refuse cs

/-- The items of an array from the next one on, and its closing bracket. -/
def items (levels : Nat) : (fuel : Nat) → Parse (List Value)
  | 0 => refuse
  | fuel + 1 => do
    let v ← value levels fuel
    filler
    if ← next? [','] then
      filler
      if ← next? [']'] then return [v]
      return v :: (← items levels fuel)
    expect ']'
    return [v]

/-- The entries of a table in one line from the next one on, and its closing brace. -/
def pairs (levels : Nat) (entries : Entries) : (fuel : Nat) → Parse Entries
  | 0 => refuse
  | fuel + 1 => do
    let (path, last) ← key
    expect '='
    blanks
    let v ← value levels fuel
    blanks
    let entries ← ofExcept (entries.addDotted path last v)
    if ← next? [','] then pairs levels entries fuel
    else
      expect '\x7d'
      return entries

end

/-- A document from the next line on, under the header `header`, with the entries read so far. -/
def lines (header : List String) (entries : Entries) : (fuel : Nat) → Parse Entries
  | 0 => refuse
  | fuel + 1 => do
    filler
    if (← get).isEmpty then return entries
    if ← next? ['[', '['] then
      let (path, last) ← key
      expect ']'
      expect ']'
      lineEnd
      lines (path ++ [last]) (← ofExcept (Entries.within (Entries.openNext last) entries path)) fuel
    else if ← next? ['['] then
      let (path, last) ← key
      expect ']'
      lineEnd
      lines (path ++ [last]) (← ofExcept (Entries.within (Entries.openTable last) entries path)) fuel
    else
      let (path, last) ← key
      expect '='
      blanks
      let v ← value maxNesting (← get).length.succ
      lineEnd
      lines header
        (← ofExcept (Entries.within (fun table => table.addDotted path last v) entries header)) fuel

end Parse

def plainLineEnds : List Char → List Char
  | '\r' :: '\n' :: rest => '\n' :: plainLineEnds rest
  | c :: rest => c :: plainLineEnds rest
  | [] => []

def parse (document : String) : Except Fault Entries :=
  let cs := plainLineEnds (Text.dropMark document.toList)
  (Parse.lines [] [] (cs.length + 1)).run' cs

end TypedTables.Toml
