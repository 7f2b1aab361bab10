import TypedTables.Proofs.ColumnType.Form
import TypedTables.Proofs.Text.Split

/-!
# Cells of ordinary length

What is read from a cell holds no text longer than the cell, since cutting a text at commas and
removing white space never lengthens it. So the values of cells that are short enough can be read
back.
-/

namespace TypedTables.Proofs

open Wire (utf8 lengthModulus)

/-- Whether a text is short enough to be read back. -/
def IsShort (text : String) : Prop := (utf8 text).length < lengthModulus

lemma utf8_eq_flatMap (s : String) : utf8 s = s.toList.flatMap String.utf8EncodeChar := by
  have hbytes : s.toByteArray = (s.toList.flatMap String.utf8EncodeChar).toByteArray :=
    String.utf8Encode_toList.symm
  rw [utf8, String.toUTF8_eq_toByteArray, hbytes, List.data_toByteArray]

lemma length_utf8_le_of_sublist {s t : String} (h : s.toList.Sublist t.toList) :
    (utf8 s).length ≤ (utf8 t).length := by
  rw [utf8_eq_flatMap, utf8_eq_flatMap]
  exact (h.flatMap _).length_le

lemma splitComponents_eq_ok {text name : String} {expected : Nat} {parts : List String}
    (h : splitComponents text name expected = .ok parts) :
    parts = (Text.fieldsOn ',' text).map Text.trim ∧ parts.length = expected := by
  unfold splitComponents at h
  by_cases hlength : ((Text.fieldsOn ',' text).map Text.trim).length = expected
  · simp only [if_pos hlength, Except.ok.injEq] at h
    subst h
    exact ⟨rfl, hlength⟩
  · simp only [if_neg hlength, reduceCtorEq] at h

lemma isShort_of_mem_components {text name : String} {expected : Nat} {parts : List String}
    (h : splitComponents text name expected = .ok parts) (hshort : IsShort text) :
    ∀ part ∈ parts, IsShort part := by
  intro part hpart
  rw [(splitComponents_eq_ok h).1] at hpart
  obtain ⟨field, hfield, rfl⟩ := List.mem_map.mp hpart
  obtain ⟨piece, hpiece, rfl⟩ := List.mem_map.mp hfield
  refine lt_of_le_of_lt (length_utf8_le_of_sublist ?_) hshort
  rw [Text.toList_trim, String.toList_ofList]
  exact (stripWhile_sublist _ _).trans (sublist_of_mem_splitOn hpiece)

lemma builtin_hasShortTexts {b : Builtin} {text : String} {v : Value} (h : b.parse text = .ok v)
    (hshort : IsShort text) : HasShortTexts v := by
  cases b <;> rw [Builtin.parse, map_eq_ok] at h
  case string =>
    obtain ⟨s, hs, rfl⟩ := h
    obtain rfl : text = s := by simpa [OfCell.ofCell] using hs
    exact hshort
  all_goals
    obtain ⟨x, -, rfl⟩ := h
    trivial

mutual

theorem parse_hasShortTexts : ∀ {t : ColumnType} {text : String} {v : Value},
    t.parse text = .ok v → IsShort text → HasShortTexts v
  | .builtin b, text, v, h, hshort => by
    rw [ColumnType.parse] at h
    exact builtin_hasShortTexts h hshort
  | .custom name typeText copies components, text, v, h, hshort => by
    rw [ColumnType.parse, bind_eq_ok] at h
    obtain ⟨parts, hparts, h⟩ := h
    obtain ⟨values, hvalues, h⟩ := bind_eq_ok.mp h
    rw [pure_eq_ok] at h
    subst h
    exact parseEach_haveShortTexts hvalues (isShort_of_mem_components hparts hshort)

theorem parseEach_haveShortTexts : ∀ {types : List ColumnType} {texts : List String}
    {values : List Value}, ColumnType.parseEach types texts = .ok values →
      (∀ text ∈ texts, IsShort text) → HaveShortTexts values
  | [], texts, values, h, _ => by
    obtain rfl : [] = values := pure_eq_ok.mp h
    trivial
  | t :: types, [], values, h, _ => by
    obtain rfl : [] = values := pure_eq_ok.mp h
    trivial
  | t :: types, text :: texts, values, h, hshort => by
    rw [ColumnType.parseEach, bind_eq_ok] at h
    obtain ⟨v, hfirst, h⟩ := h
    obtain ⟨rest, hrest, h⟩ := bind_eq_ok.mp h
    rw [pure_eq_ok] at h
    subst h
    exact ⟨parse_hasShortTexts hfirst (hshort text List.mem_cons_self),
      parseEach_haveShortTexts hrest (fun t ht => hshort t (List.mem_cons_of_mem _ ht))⟩

end

end TypedTables.Proofs
