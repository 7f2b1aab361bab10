import TypedTables.Number.Digits

/-!
# Bounded integers

Reading integers of a bounded range. Digits are taken one at a time: a character that is no digit
is refused where it stands, and a value that leaves the range is refused at the digit by which it
does, so that what comes after that digit no longer matters.
-/

namespace TypedTables.Number

open Text (digitValue?)

/-- Why a text is no integer of the asked range. -/
inductive IntegerFault where
  | empty
  | invalidDigit
  | tooLarge
  | tooSmall
deriving DecidableEq, Repr

def IntegerFault.message : IntegerFault → String
  | empty => "cannot parse integer from empty string"
  | invalidDigit => "invalid digit found in string"
  | tooLarge => "number too large to fit in target type"
  | tooSmall => "number too small to fit in target type"

def extendInteger (lo hi : Int) (negative : Bool) : Int → List Char → Except IntegerFault Int
  | acc, [] => .ok acc
  | acc, c :: rest =>
    match digitValue? c with
    | none => .error .invalidDigit
    | some d =>
      let next := if negative then acc * 10 - d else acc * 10 + d
      if next < lo then .error .tooSmall
      else if hi < next then .error .tooLarge
      else extendInteger lo hi negative next rest

/-- Reads an integer between `lo` and `hi`. A sign needs a digit after it, and a minus sign is a
sign only in a range that reaches below zero. -/
def parseInteger (lo hi : Int) : List Char → Except IntegerFault Int
  | [] => .error .empty
  | [c] => if c = '+' ∨ c = '-' then .error .invalidDigit else extendInteger lo hi false 0 [c]
  | c :: rest =>
    if c = '+' then extendInteger lo hi false 0 rest
    else if c = '-' ∧ lo < 0 then extendInteger lo hi true 0 rest
    else extendInteger lo hi false 0 (c :: rest)

end TypedTables.Number
