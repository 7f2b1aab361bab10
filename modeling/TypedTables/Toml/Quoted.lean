import TypedTables.Text.DecimalDigit

/-!
# Quoted strings of a settings document

The four kinds of quoted strings: in double quotes, with escapes, or in single quotes, without; on
one line, or between three quotes on several. The characters of a string are taken one by one, and
a mode says what has been seen so far.
-/

namespace TypedTables.Toml

open Text (hexValue?)

/-- A kind of quoted string. -/
structure QuoteStyle where
  quote : Char
  /-- Whether the string stands between three quotes and may span lines. -/
  spansLines : Bool
deriving DecidableEq, Repr

/-- What has been seen of a quoted string. -/
inductive QuoteMode where
  | plain
  /-- A run of quotes, which may or may not close the string. -/
  | quotes (count : Nat)
  /-- A backslash. -/
  | escaped
  /-- A backslash and what names a character: digits still to come, and the value of those seen. -/
  | code (left value : Nat)
  /-- A backslash at the end of a line, and the blanks after it. -/
  | folded (lineSeen : Bool)
deriving DecidableEq, Repr

def isBlank (c : Char) : Bool := c == ' ' || c == '\t'

/-- Whether a character may stand as it is in a quoted string or a comment. -/
def isPlain (c : Char) : Bool := c == '\t' || (decide (32 ≤ c.toNat) && c.toNat != 127)

/-- The character with a code, if it is the code of one. -/
def charOf? (code : Nat) : Option Char :=
  if code.isValidChar then some (Char.ofNat code) else none

/-- The character that a letter behind a backslash stands for. -/
def shortEscape? : Char → Option Char
  | 'b' => some '\x08'
  | 't' => some '\t'
  | 'n' => some '\n'
  | 'f' => some '\x0c'
  | 'r' => some '\x0d'
  | '"' => some '"'
  | '\\' => some '\\'
  | _ => none

/-- What has been read of a string, and what is left of the document. -/
abbrev Quoted := Option (List Char × List Char)

/-- Puts characters before what is read. -/
def Quoted.prepend (cs : List Char) (q : Quoted) : Quoted := q.map fun p => (cs ++ p.1, p.2)

namespace QuoteStyle

variable (style : QuoteStyle)

def hasEscapes : Bool := style.quote == '"'

/-- What a character means that nothing before it has a claim on. `next` reads on in a mode, and
`rest` is what stands behind the character. -/
def plainStep (next : QuoteMode → Quoted) (c : Char) (rest : List Char) : Quoted :=
  if c = style.quote then
    if style.spansLines then next (.quotes 1) else some ([], rest)
  else if style.hasEscapes ∧ c = '\\' then next .escaped
  else if isPlain c ∨ style.spansLines ∧ c = '\n' then (next .plain).prepend [c]
  else none

/-- Reads a string behind its opening quotes. Of a run of quotes the last three close a string that
spans lines; there are at most two others in the run. -/
def read (mode : QuoteMode) : List Char → Quoted
  | [] =>
    match mode with
    | .quotes count =>
      if 3 ≤ count then some (List.replicate (count - 3) style.quote, []) else none
    | _ => none
  | c :: rest =>
    let next (m : QuoteMode) : Quoted := read m rest
    match mode with
    | .plain => style.plainStep next c rest
    | .quotes count =>
      if c = style.quote then
        if count < 4 then next (.quotes (count + 1))
        else some ([style.quote, style.quote], rest)
      else if 3 ≤ count then some (List.replicate (count - 3) style.quote, c :: rest)
      else (style.plainStep next c rest).prepend (List.replicate count style.quote)
    | .escaped =>
      if style.spansLines ∧ (isBlank c ∨ c = '\n') then next (.folded (c == '\n'))
      else if c = 'u' then next (.code 4 0)
      else if c = 'U' then next (.code 8 0)
      else match shortEscape? c with
        | some e => (next .plain).prepend [e]
        | none => none
    | .code left value =>
      match hexValue? c with
      | none => none
      | some digit =>
        let value := 16 * value + digit
        if 1 < left then next (.code (left - 1) value)
        else match charOf? value with
          | some e => (next .plain).prepend [e]
          | none => none
    | .folded lineSeen =>
      if isBlank c ∨ c = '\n' then next (.folded (lineSeen || c == '\n'))
      else if lineSeen then style.plainStep next c rest
      else none

end QuoteStyle

end TypedTables.Toml
