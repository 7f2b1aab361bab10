import TypedTables.RowType.Call
import TypedTables.Proofs.ColumnType.Registry

/-!
# Converters of registered types

Emitted code converts the values of a custom type by functions that are called after the type. A
registry tells names apart up to the case of ASCII letters, and the functions have them in snake case,
which may be the same for names that are not. Main statement: registered types have the same functions
exactly if their names have the same snake-case form, and types with plain names, without underscores
in them, never do unless they are one type.
-/

namespace TypedTables

/-- Whether a name consists of ASCII characters without underscores, with no white space at its
ends. -/
structure IsPlainName (name : String) : Prop where
  ascii : ∀ c ∈ name.toList, c.toNat < 128
  joined : '_' ∉ name.toList
  trimmed : Text.trim name = name

namespace Proofs

open Naming (snakeCase snakeFrom)
open Text (asciiLower isUppercase lowercase)

/-! ### Letters of the snake-case form -/

/-- The small form of an ASCII character. -/
def smallForm (c : Char) : Char :=
  if 65 ≤ c.toNat ∧ c.toNat ≤ 90 then Char.ofNat (c.toNat + 32) else c

lemma toList_asciiLower (s : String) : (asciiLower s).toList = s.toList.map smallForm := by
  rw [asciiLower, String.toList_ofList]
  rfl

lemma image_of_ascii {c : Char} (h : c.toNat < 128) :
    (if isUppercase c then lowercase c else [c]) = [smallForm c] := by
  rw [isUppercase, lowercase, if_pos h, if_pos h, smallForm]
  by_cases hcapital : 65 ≤ c.toNat ∧ c.toNat ≤ 90
  · simp [hcapital]
  · simp [hcapital]

/-- Underscores are all that the snake-case form of an ASCII name adds to its small form. -/
lemma filter_snakeFrom (out : List Char) (before : Option Char) {rest : List Char}
    (h : ∀ c ∈ rest, c.toNat < 128) : (snakeFrom out before rest).filter (· != '_') =
      out.reverse.filter (· != '_') ++ (rest.map smallForm).filter (· != '_') := by
  induction rest generalizing out before with
  | nil => simp [snakeFrom]
  | cons c rest ih =>
    obtain ⟨hc, hrest⟩ := List.forall_mem_cons.mp h
    have hsmall : ((c :: rest).map smallForm).filter (· != '_') =
        [smallForm c].filter (· != '_') ++ (rest.map smallForm).filter (· != '_') :=
      List.filter_append [smallForm c] _
    rw [snakeFrom, image_of_ascii hc, ih _ _ hrest, hsmall]
    split
    · simp [List.filter_append]
    · simp [List.filter_append]

lemma filter_snakeCase {name : String} (h : ∀ c ∈ name.toList, c.toNat < 128) :
    (snakeCase name).toList.filter (· != '_') = (asciiLower name).toList.filter (· != '_') := by
  rw [snakeCase, String.toList_ofList, filter_snakeFrom [] none h, toList_asciiLower]
  rfl

lemma smallForm_ne {c : Char} (h : c ≠ '_') : smallForm c ≠ '_' := by
  unfold smallForm
  by_cases hcapital : 65 ≤ c.toNat ∧ c.toNat ≤ 90
  · rw [if_pos hcapital]
    intro hunderscore
    have hsmall := toNat_small_of_capital hcapital
    rw [hunderscore] at hsmall
    change 95 = _ at hsmall
    omega
  · rwa [if_neg hcapital]

/-- The letters of a plain name are its small form. -/
lemma filter_asciiLower {name : String} (h : IsPlainName name) :
    (asciiLower name).toList.filter (· != '_') = (asciiLower name).toList := by
  rw [List.filter_eq_self, toList_asciiLower]
  intro small hsmall
  obtain ⟨c, hc, rfl⟩ := List.mem_map.mp hsmall
  have hne : c ≠ '_' := by
    rintro rfl
    exact h.joined hc
  simpa using smallForm_ne hne

lemma asciiLower_eq_of_snakeCase_eq {a b : String} (ha : IsPlainName a) (hb : IsPlainName b)
    (h : snakeCase a = snakeCase b) : asciiLower a = asciiLower b := by
  rw [← String.toList_inj]
  calc (asciiLower a).toList
    _ = (snakeCase a).toList.filter (· != '_') := by
      rw [filter_snakeCase ha.ascii, filter_asciiLower ha]
    _ = (snakeCase b).toList.filter (· != '_') := by rw [h]
    _ = (asciiLower b).toList := by rw [filter_snakeCase hb.ascii, filter_asciiLower hb]

/-! ### Names and calls of the functions -/

section Calls

variable (c d : CustomType) (space : String) (column : Nat)

lemma parseFunction_eq_iff : CustomType.parseFunction c.name = CustomType.parseFunction d.name ↔
    snakeCase c.name = snakeCase d.name := by
  simp [CustomType.parseFunction]

lemma readFunction_eq_iff : CustomType.readFunction c.name = CustomType.readFunction d.name ↔
    snakeCase c.name = snakeCase d.name := by
  simp [CustomType.readFunction]

lemma readerCall_eq_iff : (ReaderCall.ofType space c.columnType).text =
      (ReaderCall.ofType space d.columnType).text ↔
    CustomType.readFunction c.name = CustomType.readFunction d.name := by
  simp [CustomType.columnType, ReaderCall.ofType, ReaderCall.text, toString]

lemma textCall_eq_iff : (TextCall.ofType space column c.columnType).text =
      (TextCall.ofType space column d.columnType).text ↔
    CustomType.parseFunction c.name = CustomType.parseFunction d.name := by
  simp [CustomType.columnType, TextCall.ofType, TextCall.text, toString]

end Calls

variable {r : Registry} {c d : CustomType}

/-- Registered types whose names are the same up to case, without white space at their ends, are one
type. -/
lemma eq_of_asciiLower_eq (hr : r.WellFormed) (hc : c ∈ r.customs) (hd : d ∈ r.customs)
    (hctrim : Text.trim c.name = c.name) (hdtrim : Text.trim d.name = d.name)
    (h : asciiLower c.name = asciiLower d.name) : c = d := by
  have hnames : r.customs.Pairwise fun a b => Text.trim a.name = a.name ∧ Text.trim b.name = b.name →
      asciiLower a.name ≠ asciiLower b.name := by
    apply hr.names.imp
    rintro a b hne ⟨-, hb⟩
    rwa [hb] at hne
  -- whichever of the two was registered first
  have : Std.Symm fun a b : CustomType => Text.trim a.name = a.name ∧ Text.trim b.name = b.name →
      asciiLower a.name ≠ asciiLower b.name := ⟨fun _ _ hne htrim => (hne htrim.symm).symm⟩
  by_contra hne
  exact hnames.forall hc hd hne ⟨hctrim, hdtrim⟩ h

/-- Emitted code has the same functions for two registered types, and calls them alike, exactly if the
names have one snake-case form. Types with plain names have it only if they are one type. -/
theorem sharesConverters_iff (h : r.Reachable) (hc : c ∈ r.customs) (hd : d ∈ r.customs)
    (space : String) (column : Nat) :
    List.TFAE [snakeCase c.name = snakeCase d.name,
      CustomType.parseFunction c.name = CustomType.parseFunction d.name,
      CustomType.readFunction c.name = CustomType.readFunction d.name,
      (TextCall.ofType space column c.columnType).text =
        (TextCall.ofType space column d.columnType).text,
      (ReaderCall.ofType space c.columnType).text =
        (ReaderCall.ofType space d.columnType).text] ∧
    (IsPlainName c.name → IsPlainName d.name →
      (snakeCase c.name = snakeCase d.name ↔ c = d)) := by
  refine ⟨?_, ?_⟩
  · tfae_have 1 ↔ 2 := (parseFunction_eq_iff c d).symm
    tfae_have 1 ↔ 3 := (readFunction_eq_iff c d).symm
    tfae_have 2 ↔ 4 := (textCall_eq_iff c d space column).symm
    tfae_have 3 ↔ 5 := (readerCall_eq_iff c d space).symm
    tfae_finish
  · intro hcplain hdplain
    constructor
    · intro hsnake
      exact eq_of_asciiLower_eq (wellFormed_of_reachable h) hc hd hcplain.trimmed hdplain.trimmed
        (asciiLower_eq_of_snakeCase_eq hcplain hdplain hsnake)
    · rintro rfl
      rfl

/-- A type of one byte under this name. -/
def level (name : String) : CustomType := .ofComponents name [.builtin .byte]

/-- The standard types, and two whose names differ in an underscore. -/
def rangeRegistry : Registry := ⟨Registry.standard.customs ++ [pair "MyRange"] ++ [level "My_Range"]⟩

lemma reachable_rangeRegistry : rangeRegistry.Reachable := by
  have hfirst : Registry.standard.register (pair "MyRange") =
      .ok ⟨Registry.standard.customs ++ [pair "MyRange"]⟩ :=
    register_eq_ok.mpr ⟨by decide +kernel, by decide +kernel, rfl⟩
  have hsecond : Registry.register ⟨Registry.standard.customs ++ [pair "MyRange"]⟩ (level "My_Range") =
      .ok rangeRegistry :=
    register_eq_ok.mpr ⟨by decide +kernel, by decide +kernel, rfl⟩
  exact (Registry.Reachable.standard.register hfirst).register hsecond

/-- The range of integers is read by the function that reads the one byte, and not by that of any
standard type. -/
theorem sharesConverters_iff_ranges :
    (pair "MyRange" ∈ rangeRegistry.customs ∧ level "My_Range" ∈ rangeRegistry.customs ∧
      (ReaderCall.ofType "types" (pair "MyRange").columnType).text =
        (ReaderCall.ofType "types" (level "My_Range").columnType).text) ∧
    ∀ c ∈ Registry.standard.customs,
      CustomType.readFunction c.name ≠ CustomType.readFunction (pair "MyRange").name := by
  have hrange : pair "MyRange" ∈ rangeRegistry.customs := by decide +kernel
  have hlevel : level "My_Range" ∈ rangeRegistry.customs := by decide +kernel
  have hsnake : snakeCase (pair "MyRange").name = snakeCase (level "My_Range").name := by decide +kernel
  have hstandard : ∀ c ∈ Registry.standard.customs, c.name.toList.all (·.toNat < 128) ∧
      '_' ∉ c.name.toList ∧ Text.trim c.name = c.name ∧ c ≠ pair "MyRange" := by decide +kernel
  have hrangeAscii : (pair "MyRange").name.toList.all (·.toNat < 128) := by decide +kernel
  have hplain : IsPlainName (pair "MyRange").name :=
    ⟨by simpa using hrangeAscii, by decide +kernel, by decide +kernel⟩
  refine ⟨⟨hrange, hlevel, ?_⟩, ?_⟩
  · have hshares := (sharesConverters_iff reachable_rangeRegistry hrange hlevel "types" 0).1
    exact (hshares.out 0 4).mp hsnake
  · intro c hc hread
    obtain ⟨hascii, hjoined, htrimmed, hne⟩ := hstandard c hc
    have hmem : c ∈ rangeRegistry.customs := by
      simp only [rangeRegistry, List.mem_append, hc, true_or]
    obtain ⟨hshares, hsame⟩ := sharesConverters_iff reachable_rangeRegistry hmem hrange "types" 0
    exact hne ((hsame ⟨by simpa using hascii, hjoined, htrimmed⟩ hplain).mp ((hshares.out 0 2).mpr hread))

/-- Registered types that differ need not have different functions. -/
theorem not_converters_differ : ¬∀ r c d, Registry.Reachable r → c ∈ r.customs → d ∈ r.customs →
    c ≠ d → CustomType.parseFunction c.name ≠ CustomType.parseFunction d.name ∧
      CustomType.readFunction c.name ≠ CustomType.readFunction d.name := by
  intro h
  have hdiffer := h rangeRegistry (pair "MyRange") (level "My_Range") reachable_rangeRegistry
    (by decide +kernel) (by decide +kernel) (by decide +kernel)
  exact hdiffer.1 (by decide +kernel)

end Proofs

end TypedTables
