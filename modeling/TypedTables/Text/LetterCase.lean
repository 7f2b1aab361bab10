import TypedTables.Text.LetterCase.Table

/-!
# Letter case

Upper and lower case of single characters. On ASCII these are the letters `A` to `Z` and `a` to
`z`; outside of it the tables decide.
-/

namespace TypedTables.Text

/-- The property Uppercase. -/
def isUppercase (c : Char) : Bool :=
  if c.toNat < 128 then decide (65 ≤ c.toNat ∧ c.toNat ≤ 90) else inRuns uppercaseRuns c.toNat

/-- The property Lowercase. -/
def isLowercase (c : Char) : Bool :=
  if c.toNat < 128 then decide (97 ≤ c.toNat ∧ c.toNat ≤ 122) else inRuns lowercaseRuns c.toNat

/-- The image of a character under a mapping given by shifts and expansions. A character that
neither mentions is its own image. -/
def caseImage (shifts : List Shift) (expansions : List (Nat × List Nat)) (c : Char) : List Char :=
  match expansions.lookup c.toNat with
  | some images => images.map Char.ofNat
  | none => [((shiftOf? shifts c.toNat).map Char.ofNat).getD c]

def lowercase (c : Char) : List Char :=
  if c.toNat < 128 then [if 65 ≤ c.toNat ∧ c.toNat ≤ 90 then Char.ofNat (c.toNat + 32) else c]
  else caseImage toLowerShifts toLowerExpansions c

def uppercase (c : Char) : List Char :=
  if c.toNat < 128 then [if 97 ≤ c.toNat ∧ c.toNat ≤ 122 then Char.ofNat (c.toNat - 32) else c]
  else caseImage toUpperShifts toUpperExpansions c

/-- The text with the ASCII capitals replaced by small letters. -/
def asciiLower (s : String) : String :=
  String.ofList (s.toList.map fun c =>
    if 65 ≤ c.toNat ∧ c.toNat ≤ 90 then Char.ofNat (c.toNat + 32) else c)

/-- Equality up to the case of ASCII letters. -/
def sameIgnoringAsciiCase (a b : String) : Bool :=
  asciiLower a == asciiLower b

end TypedTables.Text
