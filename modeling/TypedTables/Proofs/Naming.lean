import TypedTables.Naming
import Mathlib.Data.List.TakeWhile
import Mathlib.Tactic

/-!
# Emitted names

What the snake-case form of a column name looks like, and which words can be written in emitted
code: words of small letters, digits and underscores, with the escape in front of keywords.
-/

namespace TypedTables.Proofs

open Naming (snakeCase snakeFrom isColumnName isNameChar isKeyword numericSuffix? identifier)
open Text (digitValue? isUppercase isLowercase lowercase isDecimalDigit)

def isSmallLetter (c : Char) : Bool := decide (97 ≤ c.toNat ∧ c.toNat ≤ 122)

def isWordChar (c : Char) : Bool := c == '_' || (digitValue? c).isSome || isSmallLetter c

/-- Whether a word is a small letter followed by word characters. -/
def isSnakeWord (word : String) : Bool :=
  match word.toList with
  | [] => false
  | c :: rest => isSmallLetter c && rest.all isWordChar

lemma isSnakeWord_iff {word : String} : isSnakeWord word = true ↔
    ∃ c rest, word.toList = c :: rest ∧ isSmallLetter c = true ∧ rest.all isWordChar = true := by
  unfold isSnakeWord
  cases word.toList with
  | nil => simp
  | cons c rest => simp

lemma isColumnName_iff {name : String} : isColumnName name = true ↔
    ∃ c rest, name.toList = c :: rest ∧ (65 ≤ c.toNat ∧ c.toNat ≤ 90) ∧
      rest.all isNameChar = true := by
  unfold isColumnName
  cases name.toList with
  | nil => simp
  | cons c rest => simp

/-! ### The snake-case form -/

lemma isUppercase_of_capital {c : Char} (h : 65 ≤ c.toNat ∧ c.toNat ≤ 90) :
    isUppercase c = true := by
  rw [isUppercase, if_pos (by omega), decide_eq_true h]

lemma toNat_small_of_capital {c : Char} (h : 65 ≤ c.toNat ∧ c.toNat ≤ 90) :
    (Char.ofNat (c.toNat + 32)).toNat = c.toNat + 32 := by
  have hvalid : (c.toNat + 32).isValidChar := by
    left
    omega
  exact congrArg Char.toNat (dif_pos hvalid)

lemma lowercase_of_capital {c : Char} (h : 65 ≤ c.toNat ∧ c.toNat ≤ 90) :
    ∃ d, lowercase c = [d] ∧ isSmallLetter d = true := by
  refine ⟨Char.ofNat (c.toNat + 32), ?_, ?_⟩
  · rw [lowercase, if_pos (by omega), if_pos h]
  · rw [isSmallLetter, toNat_small_of_capital h]
    exact decide_eq_true ⟨by omega, by omega⟩

lemma isWordChar_of_image {c d : Char} (hc : isNameChar c = true)
    (hd : d ∈ if isUppercase c then lowercase c else [c]) : isWordChar d = true := by
  by_cases hcapital : 65 ≤ c.toNat ∧ c.toNat ≤ 90
  · obtain ⟨e, he, hsmall⟩ := lowercase_of_capital hcapital
    rw [if_pos (isUppercase_of_capital hcapital), he, List.mem_singleton] at hd
    simp [isWordChar, hd, hsmall]
  · have hascii : c.toNat < 128 := by
      simp only [isNameChar, digitValue?, Bool.or_eq_true, beq_iff_eq, decide_eq_true_eq] at hc
      rcases hc with ((rfl | hdigit) | hupper) | hlower
      · decide
      · split at hdigit
        · omega
        · simp at hdigit
      · omega
      · omega
    have hnot : isUppercase c = false := by
      rw [isUppercase, if_pos hascii, decide_eq_false hcapital]
    simp only [hnot, Bool.false_eq_true, if_false, List.mem_singleton] at hd
    subst hd
    simp only [isNameChar, decide_eq_false hcapital, Bool.or_false] at hc
    exact hc

/-- Going on from a form adds word characters at its end. -/
lemma snakeFrom_append (out : List Char) (before : Option Char) {rest : List Char}
    (h : rest.all isNameChar = true) :
    ∃ tail, snakeFrom out before rest = out.reverse ++ tail ∧ tail.all isWordChar = true := by
  induction rest generalizing out before with
  | nil => exact ⟨[], by simp [snakeFrom], rfl⟩
  | cons c rest ih =>
    rw [List.all_cons, Bool.and_eq_true] at h
    rw [snakeFrom]
    have himage : (if isUppercase c then lowercase c else [c]).all isWordChar = true :=
      List.all_eq_true.mpr fun d hd => isWordChar_of_image h.1 hd
    by_cases hboundary : (isUppercase c && (before.map (Naming.startsWord · rest.head?)).getD false &&
        out.head? != some '_') = true
    · obtain ⟨tail, htail, hword⟩ := ih ((if isUppercase c then lowercase c else [c]).reverse ++
        '_' :: out) (some c) h.2
      refine ⟨'_' :: ((if isUppercase c then lowercase c else [c]) ++ tail), ?_, ?_⟩
      · simp only [hboundary, if_true, htail]
        simp
      · rw [List.all_cons, List.all_append, himage, hword]
        rfl
    · obtain ⟨tail, htail, hword⟩ := ih ((if isUppercase c then lowercase c else [c]).reverse ++
        out) (some c) h.2
      refine ⟨(if isUppercase c then lowercase c else [c]) ++ tail, ?_, ?_⟩
      · simp only [hboundary, if_false, htail, Bool.false_eq_true]
        simp
      · rw [List.all_append, himage, hword]
        rfl

/-- Column names become words. -/
theorem isSnakeWord_snakeCase {name : String} (h : isColumnName name = true) :
    isSnakeWord (snakeCase name) = true := by
  obtain ⟨c, rest, hname, hcapital, hrest⟩ := isColumnName_iff.mp h
  obtain ⟨d, hd, hsmall⟩ := lowercase_of_capital hcapital
  obtain ⟨tail, htail, hword⟩ := snakeFrom_append [d] (some c) hrest
  refine isSnakeWord_iff.mpr ⟨d, tail, ?_, hsmall, hword⟩
  rw [snakeCase, hname, snakeFrom, String.toList_ofList]
  simp only [Option.map_none, Option.getD_none, Bool.and_false, Bool.false_and, Bool.false_eq_true,
    if_false, if_pos (isUppercase_of_capital hcapital), hd]
  exact htail

/-! ### Numbers at the end of names -/

/-- A name as a stem and, behind it, the longest tail of decimal digits; neither of them is empty. -/
structure EndsInNumber (name stem digits : String) : Prop where
  name_eq : name = stem ++ digits
  stem_ne : stem ≠ ""
  digits_ne : digits ≠ ""
  isDigit : ∀ c ∈ digits.toList, isDecimalDigit c = true
  longest : ∀ c ∈ stem.toList.getLast?, isDecimalDigit c = false

lemma takeWhile_dropWhile_iff {α : Type} {p : α → Bool} {l front back : List α} :
    l.takeWhile p = front ∧ l.dropWhile p = back ↔
      l = front ++ back ∧ (∀ c ∈ front, p c = true) ∧ ∀ c ∈ back.head?, p c = false := by
  constructor
  · rintro ⟨rfl, rfl⟩
    refine ⟨List.takeWhile_append_dropWhile.symm, fun c hc => List.mem_takeWhile_imp hc, ?_⟩
    intro c hc
    have hnot := List.head?_dropWhile_not p l
    rw [Option.mem_def.mp hc] at hnot
    exact hnot
  · rintro ⟨rfl, hfront, hback⟩
    have hnone : back.takeWhile p = [] ∧ back.dropWhile p = back := by
      cases back with
      | nil => exact ⟨rfl, rfl⟩
      | cons c back =>
        have hc : p c = false := hback c rfl
        simp [hc]
    rw [List.takeWhile_append_of_pos hfront, List.dropWhile_append_of_pos hfront, hnone.1, hnone.2,
      List.append_nil]
    exact ⟨rfl, rfl⟩

/-- A name is cut before its longest tail of digits, if that leaves a stem. -/
theorem numericSuffix?_eq_some {name stem digits : String} :
    numericSuffix? name = some (stem, digits) ↔ EndsInNumber name stem digits := by
  have hsplit : name.toList.reverse.takeWhile isDecimalDigit = digits.toList.reverse ∧
      name.toList.reverse.dropWhile isDecimalDigit = stem.toList.reverse ↔
      name = stem ++ digits ∧ (∀ c ∈ digits.toList, isDecimalDigit c = true) ∧
        ∀ c ∈ stem.toList.getLast?, isDecimalDigit c = false := by
    rw [takeWhile_dropWhile_iff]
    simp only [List.mem_reverse, List.head?_reverse, ← List.reverse_append, List.reverse_inj,
      ← String.toList_append, String.toList_inj]
  simp only [numericSuffix?]
  constructor
  · intro h
    split at h
    · cases h
    · next hparts =>
      obtain ⟨hstem, hdigits⟩ := Prod.mk.inj (Option.some.inj h)
      obtain ⟨hname, hall, hlongest⟩ := hsplit.mp ⟨by simp [← hdigits], by simp [← hstem]⟩
      rw [Bool.or_eq_true, not_or, List.isEmpty_iff, List.isEmpty_iff] at hparts
      refine ⟨hname, ?_, ?_, hall, hlongest⟩
      · rintro rfl
        exact hparts.2 (String.ofList_eq_empty_iff.mp hstem)
      · rintro rfl
        exact hparts.1 (String.ofList_eq_empty_iff.mp hdigits)
  · rintro ⟨hname, hstem, hdigits, hall, hlongest⟩
    obtain ⟨htake, hdrop⟩ := hsplit.mpr ⟨hname, hall, hlongest⟩
    rw [htake, hdrop]
    simp [hstem, hdigits]

/-- The part of a column name before its number is a column name. -/
theorem isColumnName_stem {name stem digits : String} (h : isColumnName name = true)
    (hsuffix : numericSuffix? name = some (stem, digits)) : isColumnName stem = true := by
  obtain ⟨c, rest, hname, hcapital, hrest⟩ := isColumnName_iff.mp h
  have hends := numericSuffix?_eq_some.mp hsuffix
  have hstem : stem.toList ≠ [] := fun hnil => hends.stem_ne (String.toList_eq_nil_iff.mp hnil)
  obtain ⟨d, front, hfront⟩ := List.exists_cons_of_ne_nil hstem
  rw [hends.name_eq, String.toList_append, hfront, List.cons_append, List.cons.injEq] at hname
  obtain ⟨rfl, rfl⟩ := hname
  refine isColumnName_iff.mpr ⟨d, front, hfront, hcapital, ?_⟩
  rw [List.all_append, Bool.and_eq_true] at hrest
  exact hrest.1

/-! ### Names that can be written -/

/-- A name without the escape of keywords. -/
def bareName (name : String) : String :=
  match name.toList with
  | 'r' :: '#' :: rest => String.ofList rest
  | _ => name

/-- Whether a name can be written in emitted code: without its escape it is a word that can be
written, and a keyword has the escape. -/
structure IsEmittable (name : String) : Prop where
  word : isSnakeWord (bareName name) = true
  expressible : bareName name ∉ Naming.inexpressible
  escaped : isKeyword (bareName name) = true → name = "r#" ++ bareName name

lemma bareName_word {word : String} (h : isSnakeWord word = true) : bareName word = word := by
  obtain ⟨c, rest, hword, -, hrest⟩ := isSnakeWord_iff.mp h
  unfold bareName
  split
  · next tail heq =>
    rw [hword, List.cons.injEq] at heq
    rw [heq.2, List.all_cons] at hrest
    have hhash : isWordChar '#' = false := by decide
    simp [hhash] at hrest
  · rfl

lemma bareName_escape (word : String) : bareName ("r#" ++ word) = word := by
  have hchars : ("r#" ++ word).toList = 'r' :: '#' :: word.toList := by
    rw [String.toList_append]
    rfl
  unfold bareName
  rw [hchars]
  exact String.ofList_toList

lemma bareName_identifier {word : String} (h : isSnakeWord word = true) :
    bareName (identifier word) = word := by
  unfold identifier
  split
  · exact bareName_escape word
  · exact bareName_word h

/-- The identifier of a word that can be written can be written. -/
theorem isEmittable_identifier {word : String} (h : isSnakeWord word = true)
    (hword : word ∉ Naming.inexpressible) : IsEmittable (identifier word) := by
  have hbare := bareName_identifier h
  refine ⟨by rwa [hbare], by rwa [hbare], ?_⟩
  rw [hbare]
  intro hkeyword
  rw [identifier, if_pos hkeyword]

lemma isEmittable_of_underscore {word : String} (h : isSnakeWord word = true)
    (hmem : '_' ∈ word.toList) : IsEmittable word := by
  have hkeywords : ∀ k ∈ Naming.keywords, '_' ∉ k.toList := by decide +kernel
  have hinexpressible : ∀ k ∈ Naming.inexpressible, '_' ∉ k.toList := by decide +kernel
  have hbare := bareName_word h
  refine ⟨by rwa [hbare], ?_, ?_⟩
  · rw [hbare]
    exact fun hword => hinexpressible word hword hmem
  · rw [hbare]
    intro hkeyword
    exact absurd hmem (hkeywords word (List.contains_iff_mem.mp hkeyword))

lemma isSnakeWord_append {word tail : String} (h : isSnakeWord word = true)
    (htail : tail.toList.all isWordChar = true) : isSnakeWord (word ++ tail) = true := by
  obtain ⟨c, rest, hword, hc, hrest⟩ := isSnakeWord_iff.mp h
  refine isSnakeWord_iff.mpr ⟨c, rest ++ tail.toList, ?_, hc, ?_⟩
  · rw [String.toList_append, hword, List.cons_append]
  · rw [List.all_append, hrest, htail]
    rfl

lemma all_isWordChar {word : String} (h : isSnakeWord word = true) :
    word.toList.all isWordChar = true := by
  obtain ⟨c, rest, hword, hc, hrest⟩ := isSnakeWord_iff.mp h
  rw [hword, List.all_cons, hrest, isWordChar, hc]
  simp

end TypedTables.Proofs
