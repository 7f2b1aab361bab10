import TypedTables.Number.FloatFormat.Shortest
import TypedTables.Text.LetterCase

/-!
# Decimal text of floating-point numbers

Decimal text of floating-point numbers: reading it, and the two ways of writing it. Plain text
never has an exponent; a literal always shows that it is no integer and has an exponent where the
plain form would be long.
-/

namespace TypedTables.Number

open Text (digitValue? asciiLower)

/-- Why a text is no floating-point number. -/
inductive FloatFault where
  | empty
  | invalid
deriving DecidableEq, Repr

def FloatFault.message : FloatFault → String
  | empty => "cannot parse float from empty string"
  | invalid => "invalid float literal"

/-- Whether the character is an ASCII digit. -/
def isDigit (c : Char) : Bool := (digitValue? c).isSome

/-- The value of the digits of an exponent. From 65536 on further digits are ignored: such an
exponent already decides the result. -/
def exponentValue (s : List Char) : Nat :=
  s.foldl (fun n c => if n < 0x10000 then 10 * n + (digitValue? c).getD 0 else n) 0

/-- Reads what may follow the digits of a number: nothing, or `e` and a whole number. -/
def parseExponent : List Char → Option Int
  | [] => some 0
  | c :: rest =>
    if c = 'e' ∨ c = 'E' then
      let (negative, ds) := match rest with
        | '-' :: r => (true, r)
        | '+' :: r => (false, r)
        | r => (false, r)
      if ds.isEmpty || !ds.all isDigit then none
      else some (if negative then -(exponentValue ds : Int) else exponentValue ds)
    else none

/-- Reads an unsigned decimal: digits with at most one point among or beside them, then perhaps an
exponent. -/
def parseDecimal (s : List Char) : Option Decimal :=
  let whole := s.takeWhile isDigit
  let (fraction, rest) := match s.dropWhile isDigit with
    | '.' :: r => (r.takeWhile isDigit, r.dropWhile isDigit)
    | r => ([], r)
  if whole.isEmpty && fraction.isEmpty then none
  else do
    let exponent ← parseExponent rest
    let coefficient ← value? (whole ++ fraction)
    return ⟨coefficient, exponent - fraction.length⟩

namespace FloatFormat

variable (f : FloatFormat)

def ofName? (s : List Char) : Option Nat :=
  let name := asciiLower (String.ofList s)
  if name = "inf" ∨ name = "infinity" then some f.infinity
  else if name = "nan" then some f.quietNan
  else none

def parse (s : List Char) : Except FloatFault Nat :=
  match s with
  | [] => .error .empty
  | c :: rest =>
    let body := if c = '-' ∨ c = '+' then rest else s
    match parseDecimal body with
    | some d => .ok (f.withSign (c == '-') (f.ofDecimal d.coefficient d.exponent))
    | none =>
      match f.ofName? body with
      | some magnitude => .ok (f.withSign (c == '-') magnitude)
      | none => .error .invalid

end FloatFormat

/-- A decimal without exponent, with a point only where digits follow it. -/
def Decimal.plain (d : Decimal) : List Char :=
  let ds := digits d.coefficient
  if 0 ≤ d.exponent then ds ++ List.replicate d.exponent.toNat '0'
  else
    let places := (-d.exponent).toNat
    if places < ds.length then
      ds.take (ds.length - places) ++ '.' :: ds.drop (ds.length - places)
    else '0' :: '.' :: (List.replicate (places - ds.length) '0' ++ ds)

def Decimal.scientific (d : Decimal) : List Char :=
  let ds := digits d.coefficient
  let exponent := d.exponent + (ds.length - 1 : Nat)
  let tail := ds.drop 1
  ds.take 1 ++ (if tail.isEmpty then [] else '.' :: tail) ++ 'e' :: (intText exponent).toList

namespace FloatFormat

variable (f : FloatFormat)

def plainMagnitude (magnitude : Nat) : List Char :=
  if f.infinity < magnitude then "NaN".toList
  else if magnitude = f.infinity then "inf".toList
  else if magnitude = 0 then ['0']
  else (f.shortest magnitude).plain

/-- The unsigned literal of a magnitude: with an exponent below a ten-thousandth and from ten to
the sixteenth on, else with a point. -/
def literalMagnitude (magnitude : Nat) : List Char :=
  if f.infinity ≤ magnitude then f.plainMagnitude magnitude
  else if magnitude ≠ 0 ∧
      (magnitude < f.ofDecimal 1 (-4) ∨ f.ofDecimal 1 16 ≤ magnitude) then
    (f.shortest magnitude).scientific
  else
    let plain := f.plainMagnitude magnitude
    if plain.contains '.' then plain else plain ++ ['.', '0']

/-- Puts the sign of a bit pattern before the text of its magnitude. What is no number has none. -/
def signed (text : Nat → List Char) (bits : Nat) : String :=
  let magnitude := f.magnitude bits
  String.ofList
    (if f.isNegative bits && decide (magnitude ≤ f.infinity) then '-' :: text magnitude
     else text magnitude)

def text (bits : Nat) : String := f.signed f.plainMagnitude bits

def literal (bits : Nat) : String := f.signed f.literalMagnitude bits

end FloatFormat

end TypedTables.Number
