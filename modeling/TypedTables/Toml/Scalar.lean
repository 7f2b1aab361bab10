import TypedTables.Toml.Quoted
import TypedTables.Toml.Value

/-!
# Unquoted scalars of a settings document

Truth values, whole numbers, other numbers, dates and times. All of them are words: the longest run
of the characters that occur in them, which must as a whole be one of the forms.
-/

namespace TypedTables.Toml

open Text (hexValue?)
open Number (isDigit)

def isWordChar (c : Char) : Bool :=
  isDigit c || decide (65 ≤ c.toNat ∧ c.toNat ≤ 90) || decide (97 ≤ c.toNat ∧ c.toNat ≤ 122) ||
    c == '_' || c == '+' || c == '-' || c == '.' || c == ':'

/-- The digits of a number without the underscores that group them. An underscore stands between
two digits. -/
def ungrouped? (isDigit : Char → Bool) : List Char → Option (List Char)
  | [] => none
  | [c] => if isDigit c then some [c] else none
  | c :: '_' :: rest => if isDigit c then (ungrouped? isDigit rest).map (c :: ·) else none
  | c :: rest => if isDigit c then (ungrouped? isDigit rest).map (c :: ·) else none

def digitIn? (base : Nat) (c : Char) : Option Nat :=
  (hexValue? c).filter fun d => decide (d < base)

/-- Whole numbers have 64 bits. -/
def bounded? (i : Int) : Option Int :=
  if -9223372036854775808 ≤ i ∧ i ≤ 9223372036854775807 then some i else none

def prefixed? (base : Nat) (ds : List Char) : Option Int := do
  let ds ← ungrouped? (fun c => (digitIn? base c).isSome) ds
  bounded? (ds.foldl (fun n c => base * n + (digitIn? base c).getD 0) 0 : Nat)

/-- A sign, if there is one, and what follows it. -/
def cutSign : List Char → Option Char × List Char
  | '+' :: rest => (some '+', rest)
  | '-' :: rest => (some '-', rest)
  | cs => (none, cs)

/-- The digits of a decimal number, which has no leading zeros. -/
def decimalDigits? (cs : List Char) : Option (List Char) := do
  let ds ← ungrouped? isDigit cs
  if ds.head? = some '0' ∧ ds ≠ ['0'] then none else some ds

def integer? : List Char → Option Int
  | '0' :: 'x' :: ds => prefixed? 16 ds
  | '0' :: 'o' :: ds => prefixed? 8 ds
  | '0' :: 'b' :: ds => prefixed? 2 ds
  | cs => do
    let (sign, cs) := cutSign cs
    let n ← (← decimalDigits? cs) |> Number.value?
    bounded? (if sign = some '-' then -(n : Int) else n)

/-- An exponent without its letter. -/
def exponent? (cs : List Char) : Option (List Char) :=
  let (sign, cs) := cutSign cs
  (ungrouped? isDigit cs).map (sign.toList ++ ·)

/-- The part of a number behind its whole digits, without underscores: a point and digits, an
exponent, or both. -/
def fraction? : List Char → Option (List Char)
  | '.' :: cs =>
    let digits := cs.takeWhile fun c => isDigit c || c == '_'
    match ungrouped? isDigit digits, cs.drop digits.length with
    | some ds, [] => some ('.' :: ds)
    | some ds, c :: rest =>
      if c = 'e' ∨ c = 'E' then (exponent? rest).map fun e => '.' :: ds ++ 'e' :: e else none
    | none, _ => none
  | c :: rest => if c = 'e' ∨ c = 'E' then (exponent? rest).map ('e' :: ·) else none
  | [] => none

/-- A number that is not whole. Numbers that round to positive infinity are refused. -/
def float? (cs : List Char) : Option Double :=
  let (sign, cs) := cutSign cs
  let plain? : Option (List Char) :=
    if cs = ['i', 'n', 'f'] ∨ cs = ['n', 'a', 'n'] then some cs
    else
      let whole := cs.takeWhile fun c => isDigit c || c == '_'
      do return (← decimalDigits? whole) ++ (← fraction? (cs.drop whole.length))
  match plain? with
  | none => none
  | some plain =>
    match Double.parse (sign.toList ++ plain) with
    | .ok x =>
      if plain ≠ ['i', 'n', 'f'] ∧ x.bits.toNat = Number.FloatFormat.binary64.infinity then none
      else some x
    | .error _ => none

/-- Two digits whose value is in a range. -/
def twoDigits? (least most : Nat) (a b : Char) : Option Nat :=
  (Number.value? [a, b]).filter fun n => decide (least ≤ n ∧ n ≤ most)

def daysIn (year month : Nat) : Nat :=
  if month = 2 then
    if year % 4 = 0 ∧ (year % 100 ≠ 0 ∨ year % 400 = 0) then 29 else 28
  else if month = 4 ∨ month = 6 ∨ month = 9 ∨ month = 11 then 30
  else 31

def isDate : List Char → Bool
  | [y₁, y₂, y₃, y₄, '-', m₁, m₂, '-', d₁, d₂] =>
    match Number.value? [y₁, y₂, y₃, y₄], twoDigits? 1 12 m₁ m₂ with
    | some year, some month => (twoDigits? 1 (daysIn year month) d₁ d₂).isSome
    | _, _ => false
  | _ => false

def isHourMinute : List Char → Bool
  | [h₁, h₂, ':', m₁, m₂] => (twoDigits? 0 23 h₁ h₂).isSome && (twoDigits? 0 59 m₁ m₂).isSome
  | _ => false

def isTime (cs : List Char) : Bool :=
  match cs.drop 5 with
  | ':' :: s₁ :: s₂ :: fraction =>
    isHourMinute (cs.take 5) && (twoDigits? 0 60 s₁ s₂).isSome &&
      match fraction with
      | [] => true
      | c :: digits => c == '.' && !digits.isEmpty && digits.all isDigit
  | _ => false

def isOffset : List Char → Bool
  | [c] => c == 'Z' || c == 'z'
  | c :: rest => (c == '+' || c == '-') && isHourMinute rest
  | [] => false

def isOffsetTime (cs : List Char) : Bool :=
  let time := cs.takeWhile fun c => isDigit c || c == ':' || c == '.'
  isTime time && (time.length == cs.length || isOffset (cs.drop time.length))

def isMoment (cs : List Char) : Bool :=
  isDate cs || isTime cs ||
    match cs.drop 10 with
    | c :: time => isDate (cs.take 10) && (c == 'T' || c == 't' || c == ' ') && isOffsetTime time
    | [] => false

def scalar? (word : List Char) : Option Value :=
  if word = "true".toList then some (.boolean true)
  else if word = "false".toList then some (.boolean false)
  else match integer? word with
    | some i => some (.integer i)
    | none =>
      match float? word with
      | some x => some (.float x)
      | none => if isMoment word then some (.moment (String.ofList word)) else none

/-- Cuts an unquoted scalar off. A date may have a space before its time. -/
def cutWord (cs : List Char) : List Char × List Char :=
  let word := cs.takeWhile isWordChar
  let rest := cs.drop word.length
  match rest with
  | ' ' :: c :: _ =>
    if isDate word ∧ isDigit c then
      let time := (rest.drop 1).takeWhile isWordChar
      (word ++ ' ' :: time, rest.drop (time.length + 1))
    else (word, rest)
  | _ => (word, rest)

end TypedTables.Toml
