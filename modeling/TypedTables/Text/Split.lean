/-!
# Splitting and joining text

Cutting a text at a separator or at its line ends, joining pieces, and replacing every occurrence
of a token. All of it works on lists of characters; the functions on strings are wrappers.
-/

namespace TypedTables.Text

/-- The pieces between the occurrences of `sep`: always one more than there are occurrences. -/
def splitOn (sep : Char) : List Char → List (List Char)
  | [] => [[]]
  | c :: rest =>
    if c = sep then [] :: splitOn sep rest
    else match splitOn sep rest with
      | [] => [[c]]
      | piece :: pieces => (c :: piece) :: pieces

/-- The pieces between line ends. A carriage return and line feed together end one line; either of
them alone ends one, too. -/
def splitLines : List Char → List (List Char)
  | [] => [[]]
  | '\r' :: '\n' :: rest => [] :: splitLines rest
  | c :: rest =>
    if c = '\n' ∨ c = '\r' then [] :: splitLines rest
    else match splitLines rest with
      | [] => [[c]]
      | piece :: pieces => (c :: piece) :: pieces

/-- Removes the last piece if it is empty: a line end at the very end of a text ends its last line
and starts no other. -/
def dropEmptyLast (pieces : List (List Char)) : List (List Char) :=
  if pieces.getLast? = some [] then pieces.dropLast else pieces

def dropMark : List Char → List Char
  | '\ufeff' :: rest => rest
  | text => text

def joinChars (sep : List Char) (pieces : List (List Char)) : List Char :=
  sep.intercalate pieces

def joinWith (sep : String) (pieces : List String) : String :=
  String.ofList (joinChars sep.toList (pieces.map String.toList))

def fieldsOn (sep : Char) (s : String) : List String :=
  (splitOn sep s.toList).map String.ofList

/-- Copies `text`, putting `value` in the place of each occurrence of `token`, found from the left
and without overlap. The counter holds how many characters of a found token are still to be
skipped. -/
def replaceFrom (token value : List Char) : Nat → List Char → List Char
  | _, [] => []
  | skip + 1, _ :: rest => replaceFrom token value skip rest
  | 0, c :: rest =>
    if token.isPrefixOf (c :: rest) then value ++ replaceFrom token value (token.length - 1) rest
    else c :: replaceFrom token value 0 rest

def replaceAll (token value : List Char) (text : List Char) : List Char :=
  replaceFrom token value 0 text

def occursIn (part : List Char) : List Char → Bool
  | [] => part.isEmpty
  | c :: rest => part.isPrefixOf (c :: rest) || occursIn part rest

@[simp] theorem toList_joinWith (sep : String) (pieces : List String) :
    (joinWith sep pieces).toList = joinChars sep.toList (pieces.map String.toList) := by
  simp [joinWith]

theorem splitOn_ne_nil (sep : Char) (s : List Char) : splitOn sep s ≠ [] := by
  cases s with
  | nil => simp [splitOn]
  | cons c rest =>
    simp only [splitOn]
    split
    · simp
    · split <;> simp

end TypedTables.Text
