import TypedTables.Text.Literal.Table

/-!
# Literals

Character and string literals. A character stands for itself unless it is the closing quote, a
backslash, has no visible form, or is a mark on the character before it; then it is escaped.
-/

namespace TypedTables.Text

/-- Whether a literal may show the character as it is. -/
def isPrintable (c : Char) : Bool :=
  if c.toNat < 128 then decide (32 ≤ c.toNat ∧ c.toNat < 127)
  else !inRuns unprintableRuns c.toNat

/-- Whether the character is a mark that extends the grapheme before it. -/
def isExtender (c : Char) : Bool :=
  128 ≤ c.toNat && inRuns extenderRuns c.toNat

def hexDigits (n : Nat) : String :=
  String.ofList (Nat.toDigits 16 n)

def escapeChar (quote c : Char) : String :=
  if c = '\x00' then "\\0"
  else if c = '\t' then "\\t"
  else if c = '\r' then "\\r"
  else if c = '\n' then "\\n"
  else if c = '\\' then "\\\\"
  else if c = quote then String.ofList ['\\', c]
  else if isPrintable c && !isExtender c then String.ofList [c]
  else "\\u\x7b" ++ hexDigits c.toNat ++ "\x7d"

def charLiteral (c : Char) : String :=
  "'" ++ escapeChar '\'' c ++ "'"

def stringLiteral (s : String) : String :=
  "\"" ++ String.join (s.toList.map (escapeChar '"')) ++ "\""

end TypedTables.Text
