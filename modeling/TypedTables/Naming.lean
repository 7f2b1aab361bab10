import TypedTables.Text.LetterCase
import TypedTables.Text.DecimalDigit
import TypedTables.Text.Split

/-!
# Names

How names of columns, tables and types become identifiers of emitted code: the snake-case form,
the Pascal-case form, the escape of keywords, and the number at the end of a name.
-/

namespace TypedTables.Naming

open Text (isUppercase isLowercase lowercase uppercase isDecimalDigit digitValue?)

/-- Whether a word starts at the capital `c` that stands between `before` and `after`: behind a
small letter or an ASCII digit, and at the last capital of several if a small letter follows. -/
def startsWord (before : Char) (after : Option Char) : Bool :=
  isLowercase before || (digitValue? before).isSome ||
    (isUppercase before && (after.map isLowercase).getD false)

/-- Continues the snake-case form `out`, held in reverse, of a name whose last character so far
was `before`. -/
def snakeFrom (out : List Char) (before : Option Char) : List Char → List Char
  | [] => out.reverse
  | c :: rest =>
    let boundary := isUppercase c &&
      (before.map (startsWord · rest.head?)).getD false && out.head? != some '_'
    let gap := if boundary then '_' :: out else out
    let image := if isUppercase c then lowercase c else [c]
    snakeFrom (image.reverse ++ gap) (some c) rest

/-- The snake-case form of a name: capitals become small, and an underscore stands before each of
them that starts a word. -/
def snakeCase (name : String) : String :=
  String.ofList (snakeFrom [] none name.toList)

/-- The words of a name, between underscores, hyphens and spaces. -/
def words (name : List Char) : List (List Char) :=
  ((Text.splitOn '_' name).flatMap (Text.splitOn '-')).flatMap (Text.splitOn ' ')

def capitalize : List Char → List Char
  | [] => []
  | c :: rest => uppercase c ++ rest

/-- The Pascal-case form of a name: its words, each with a capital, without what was between. -/
def pascalCase (name : String) : String :=
  String.ofList ((words name.toList).flatMap capitalize)

def keywords : List String := [
  "abstract", "as", "async", "await", "become", "box", "break", "const", "continue", "crate", "do",
  "dyn", "else", "enum", "extern", "false", "final", "fn", "for", "gen", "if", "impl", "in", "let",
  "loop", "macro", "match", "mod", "move", "mut", "override", "priv", "pub", "ref", "return",
  "self", "static", "struct", "super", "trait", "true", "try", "type", "typeof", "unsafe",
  "unsized", "use", "virtual", "where", "while", "yield"]

/-- The words that are no identifiers even when escaped. -/
def inexpressible : List String := ["self", "super", "crate", "Self"]

def isKeyword (word : String) : Bool := keywords.contains word

/-- The identifier for a word: keywords are escaped. -/
def identifier (word : String) : String :=
  if isKeyword word then "r#" ++ word else word

/-- Cuts a name before its longest tail of decimal digits. A name without such a tail, or with
nothing before it, is not cut. -/
def numericSuffix? (name : String) : Option (String × String) :=
  let back := name.toList.reverse
  let tail := (back.takeWhile isDecimalDigit).reverse
  let front := (back.dropWhile isDecimalDigit).reverse
  if tail.isEmpty || front.isEmpty then none
  else some (String.ofList front, String.ofList tail)

/-- Whether a character may stand in a column name after the first: ASCII letters, digits and
underscores. -/
def isNameChar (c : Char) : Bool :=
  c == '_' || (digitValue? c).isSome ||
    decide (65 ≤ c.toNat ∧ c.toNat ≤ 90) || decide (97 ≤ c.toNat ∧ c.toNat ≤ 122)

/-- Whether a column may have this name: an ASCII capital, then name characters. -/
def isColumnName (name : String) : Bool :=
  match name.toList with
  | [] => false
  | c :: rest => decide (65 ≤ c.toNat ∧ c.toNat ≤ 90) && rest.all isNameChar

def className (start table : String) : String := start ++ pascalCase table

def fileName (className : String) : String := snakeCase className ++ ".rs"

end TypedTables.Naming
