/-!
# White space

White space, and removing characters from the two ends of a text.
-/

namespace TypedTables.Text

/-- The Unicode property White_Space. -/
def isBlank (c : Char) : Bool :=
  let n := c.toNat
  (9 ≤ n && n ≤ 13) || n == 0x20 || n == 0x85 || n == 0xA0 || n == 0x1680 ||
    (0x2000 ≤ n && n ≤ 0x200A) || n == 0x2028 || n == 0x2029 || n == 0x202F || n == 0x205F ||
    n == 0x3000

/-- Drops the longest tail all of whose members satisfy `p`. -/
def dropEndWhile {α : Type} (p : α → Bool) (l : List α) : List α :=
  (l.reverse.dropWhile p).reverse

def stripWhile {α : Type} (p : α → Bool) (l : List α) : List α :=
  dropEndWhile p (l.dropWhile p)

/-- The text without white space at its ends. -/
def trim (s : String) : String :=
  String.ofList (stripWhile isBlank s.toList)

/-- The text without white space at its end. -/
def trimEnd (s : String) : String :=
  String.ofList (dropEndWhile isBlank s.toList)

/-- The text without any of the given characters at its ends. -/
def stripChars (chars : List Char) (s : String) : String :=
  String.ofList (stripWhile chars.contains s.toList)

/-- Whether the text holds nothing but white space. -/
def isAllBlank (s : String) : Bool :=
  s.toList.all isBlank

@[simp] theorem dropEndWhile_nil {α : Type} (p : α → Bool) : dropEndWhile p [] = [] := rfl

@[simp] theorem stripWhile_nil {α : Type} (p : α → Bool) : stripWhile p [] = [] := rfl

@[simp] theorem toList_trim (s : String) : (trim s).toList = stripWhile isBlank s.toList := by
  simp [trim]

@[simp] theorem toList_stripChars (chars : List Char) (s : String) :
    (stripChars chars s).toList = stripWhile chars.contains s.toList := by
  simp [stripChars]

end TypedTables.Text
