import TypedTables.Text.Blank
import TypedTables.Text.Split
import Mathlib.Tactic

/-!
# Cutting and joining text

Cutting at a separator undoes joining with it, and joining undoes cutting. A text is cut into lines
from its front: `afterBreak?` is what a line end leaves, and `line_induction` goes through a text
line by line.
-/

namespace TypedTables.Proofs

open Text (splitOn splitLines joinChars dropEndWhile stripWhile)

/-! ### Separators -/

/-- A character other than the separator stands at the front of the first piece. -/
lemma splitOn_cons {sep c : Char} (hc : c ≠ sep) (rest : List Char) : ∃ piece pieces,
    splitOn sep rest = piece :: pieces ∧ splitOn sep (c :: rest) = (c :: piece) :: pieces := by
  obtain ⟨piece, pieces, h⟩ := List.exists_cons_of_ne_nil (Text.splitOn_ne_nil sep rest)
  refine ⟨piece, pieces, h, ?_⟩
  rw [splitOn, if_neg hc, h]

lemma splitOn_eq (sep : Char) (s : List Char) : splitOn sep s = List.splitOn sep s := by
  induction s with
  | nil => rfl
  | cons c rest ih =>
    rw [List.splitOn, List.splitOnP_cons_eq_if_modifyHead, ← List.splitOn, ← ih]
    by_cases hc : c = sep
    · simp [splitOn, hc]
    · obtain ⟨piece, pieces, hrest, htext⟩ := splitOn_cons hc rest
      simp [htext, hrest, hc]

lemma joinChars_splitOn (sep : Char) (s : List Char) : joinChars [sep] (splitOn sep s) = s := by
  rw [splitOn_eq, joinChars, List.intercalate_splitOn]

lemma splitOn_joinChars {sep : Char} {pieces : List (List Char)} (hne : pieces ≠ [])
    (h : ∀ piece ∈ pieces, sep ∉ piece) : splitOn sep (joinChars [sep] pieces) = pieces := by
  rw [splitOn_eq, joinChars, List.splitOn_intercalate sep h hne]

lemma fieldsOn_joinWith {sep : Char} {joiner : String} {texts : List String}
    (hjoiner : joiner.toList = [sep]) (hne : texts ≠ []) (h : ∀ text ∈ texts, sep ∉ text.toList) :
    Text.fieldsOn sep (Text.joinWith joiner texts) = texts := by
  have hpieces : ∀ piece ∈ texts.map String.toList, sep ∉ piece := List.forall_mem_map.mpr h
  rw [Text.fieldsOn, Text.toList_joinWith, hjoiner,
    splitOn_joinChars (mt List.map_eq_nil_iff.mp hne) hpieces]
  simp

lemma joinChars_cons (sep piece : List Char) (pieces : List (List Char)) :
    joinChars sep (piece :: pieces) = piece ++ pieces.flatMap (sep ++ ·) := by
  induction pieces generalizing piece with
  | nil => simp [joinChars]
  | cons next pieces ih =>
    have hnext := ih next
    rw [joinChars] at hnext ⊢
    rw [List.intercalate_cons_cons, hnext]
    simp

lemma joinChars_singleton (sep piece : List Char) : joinChars sep [piece] = piece := by
  rw [joinChars_cons, List.flatMap_nil, List.append_nil]

lemma joinChars_cons_of_ne_nil (sep piece : List Char) {pieces : List (List Char)}
    (hne : pieces ≠ []) : joinChars sep (piece :: pieces) = piece ++ sep ++ joinChars sep pieces := by
  obtain ⟨next, pieces, rfl⟩ := List.exists_cons_of_ne_nil hne
  rw [joinChars_cons, joinChars_cons, List.flatMap_cons, List.append_assoc, List.append_assoc]

lemma mem_joinChars {sep : List Char} {pieces : List (List Char)} {c : Char}
    (h : c ∈ joinChars sep pieces) : c ∈ sep ∨ ∃ piece ∈ pieces, c ∈ piece := by
  cases pieces with
  | nil => simp [joinChars] at h
  | cons first pieces =>
    rw [joinChars_cons, List.mem_append, List.mem_flatMap] at h
    rcases h with hfirst | ⟨piece, hpiece, hc⟩
    · exact .inr ⟨first, List.mem_cons_self, hfirst⟩
    · rcases List.mem_append.mp hc with hsep | hc
      · exact .inl hsep
      · exact .inr ⟨piece, List.mem_cons_of_mem _ hpiece, hc⟩

lemma not_mem_of_mem_splitOn {sep : Char} {s piece : List Char} (h : piece ∈ splitOn sep s) :
    sep ∉ piece := by
  induction s generalizing piece with
  | nil =>
    obtain rfl : piece = [] := by simpa [splitOn] using h
    exact List.not_mem_nil
  | cons c rest ih =>
    by_cases hc : c = sep
    · rw [splitOn, if_pos hc] at h
      rcases List.mem_cons.mp h with rfl | hrest
      · exact List.not_mem_nil
      · exact ih hrest
    · obtain ⟨first, others, hrest, htext⟩ := splitOn_cons hc rest
      rw [htext] at h
      rw [hrest] at ih
      rcases List.mem_cons.mp h with rfl | hothers
      · exact List.not_mem_cons_of_ne_of_not_mem (Ne.symm hc) (ih List.mem_cons_self)
      · exact ih (List.mem_cons_of_mem _ hothers)

lemma sublist_of_mem_splitOn {sep : Char} {s piece : List Char} (h : piece ∈ splitOn sep s) :
    piece.Sublist s := by
  induction s generalizing piece with
  | nil =>
    obtain rfl : piece = [] := by simpa [splitOn] using h
    exact List.Sublist.refl []
  | cons c rest ih =>
    by_cases hc : c = sep
    · rw [splitOn, if_pos hc] at h
      rcases List.mem_cons.mp h with rfl | hrest
      · exact List.nil_sublist _
      · exact (ih hrest).cons c
    · obtain ⟨first, others, hrest, htext⟩ := splitOn_cons hc rest
      rw [htext] at h
      rw [hrest] at ih
      rcases List.mem_cons.mp h with rfl | hothers
      · exact (ih List.mem_cons_self).cons_cons c
      · exact (ih (List.mem_cons_of_mem _ hothers)).cons c

lemma splitOn_of_not_mem {sep : Char} {s : List Char} (h : sep ∉ s) : splitOn sep s = [s] := by
  have hpieces : ∀ piece ∈ [s], sep ∉ piece := by simpa using h
  have hsplit := splitOn_joinChars (List.cons_ne_nil s []) hpieces
  rwa [joinChars_singleton] at hsplit

/-- An end of a text without a separator in it is an end of the last piece. -/
lemma exists_getLast?_splitOn {sep : Char} {s tail : List Char} (h : tail <:+ s)
    (hsep : sep ∉ tail) : ∃ piece, (splitOn sep s).getLast? = some piece ∧ tail <:+ piece := by
  induction s with
  | nil => exact ⟨[], rfl, h⟩
  | cons c rest ih =>
    rcases List.suffix_cons_iff.mp h with rfl | hrest
    · exact ⟨c :: rest, by rw [splitOn_of_not_mem hsep]; rfl, List.suffix_rfl⟩
    · obtain ⟨last, hlast, htail⟩ := ih hrest
      by_cases hc : c = sep
      · refine ⟨last, ?_, htail⟩
        rw [splitOn, if_pos hc, List.getLast?_cons, hlast]
        rfl
      · obtain ⟨piece, pieces, hpieces, htext⟩ := splitOn_cons hc rest
        rw [hpieces] at hlast
        rw [htext]
        cases pieces with
        | nil =>
          obtain rfl : piece = last := by simpa using hlast
          exact ⟨c :: piece, rfl, htail.trans (List.suffix_cons c piece)⟩
        | cons next pieces => exact ⟨last, by simpa using hlast, htail⟩
/-! ### Lines -/

lemma splitLines_ne_nil (text : List Char) : splitLines text ≠ [] := by
  fun_cases splitLines text <;> simp [*]

/-- A character that ends no line stands at the front of the first line. -/
lemma splitLines_cons {c : Char} (hc : ¬(c = '\n' ∨ c = '\r')) (rest : List Char) :
    ∃ line lines, splitLines rest = line :: lines ∧ splitLines (c :: rest) = (c :: line) :: lines := by
  obtain ⟨line, lines, h⟩ := List.exists_cons_of_ne_nil (splitLines_ne_nil rest)
  refine ⟨line, lines, h, ?_⟩
  rw [splitLines, if_neg hc, h]
  rintro _ rfl
  exact fun _ => hc (Or.inr rfl)

lemma sublist_of_mem_splitLines {text line : List Char} (h : line ∈ splitLines text) :
    line.Sublist text := by
  fun_induction splitLines text generalizing line with
  | case1 =>
    obtain rfl : line = [] := by simpa using h
    exact List.Sublist.refl []
  | case2 rest ih =>
    rcases List.mem_cons.mp h with rfl | hrest
    · exact List.nil_sublist _
    · exact ((ih hrest).cons _).cons _
  | case3 c rest _ _ ih =>
    rcases List.mem_cons.mp h with rfl | hrest
    · exact List.nil_sublist _
    · exact (ih hrest).cons _
  | case4 c rest _ _ hnil _ =>
    exact absurd hnil (splitLines_ne_nil rest)
  | case5 c rest _ _ first others hlines ih =>
    rw [hlines] at ih
    rcases List.mem_cons.mp h with rfl | hothers
    · exact (ih List.mem_cons_self).cons_cons c
    · exact (ih (List.mem_cons_of_mem _ hothers)).cons c

/-- What stands behind the line end that a text starts with. -/
def afterBreak? : List Char → Option (List Char)
  | '\n' :: rest => some rest
  | '\r' :: '\n' :: rest => some rest
  | '\r' :: rest => some rest
  | _ => none

/-- A text on one line, without an end. -/
def IsLine (text : List Char) : Prop := ∀ c ∈ text, ¬(c = '\n' ∨ c = '\r')

lemma isLine_of_mem_splitLines {text line : List Char} (h : line ∈ splitLines text) : IsLine line := by
  fun_induction splitLines text generalizing line with
  | case1 =>
    obtain rfl : line = [] := by simpa using h
    exact List.forall_mem_nil _
  | case2 rest ih =>
    rcases List.mem_cons.mp h with rfl | hrest
    · exact List.forall_mem_nil _
    · exact ih hrest
  | case3 c rest _ _ ih =>
    rcases List.mem_cons.mp h with rfl | hrest
    · exact List.forall_mem_nil _
    · exact ih hrest
  | case4 c rest _ _ hnil _ =>
    exact absurd hnil (splitLines_ne_nil rest)
  | case5 c rest _ hc first others hlines ih =>
    rw [hlines] at ih
    rcases List.mem_cons.mp h with rfl | hothers
    · exact List.forall_mem_cons.mpr ⟨hc, ih List.mem_cons_self⟩
    · exact ih (List.mem_cons_of_mem _ hothers)

lemma exists_afterBreak? {c : Char} (hc : c = '\n' ∨ c = '\r') (behind : List Char) :
    ∃ rest, afterBreak? (c :: behind) = some rest := by
  rcases hc with rfl | rfl
  · exact ⟨behind, rfl⟩
  · rw [← Option.isSome_iff_exists]
    unfold afterBreak?
    split <;> simp_all

lemma head_of_afterBreak? {text rest : List Char} (h : afterBreak? text = some rest) :
    ∀ c ∈ text.head?, c = '\n' ∨ c = '\r' := by
  unfold afterBreak? at h
  split at h
  case h_4 => cases h
  all_goals simp

lemma length_lt_of_afterBreak? {text rest : List Char} (h : afterBreak? text = some rest) :
    rest.length < text.length := by
  unfold afterBreak? at h
  split at h
  case h_4 => cases h
  all_goals
    obtain rfl := Option.some.inj h
    simp only [List.length_cons]
    omega

lemma splitLines_of_afterBreak? {text rest : List Char} (h : afterBreak? text = some rest) :
    splitLines text = [] :: splitLines rest := by
  unfold afterBreak? at h
  split at h
  case h_4 => cases h
  all_goals
    obtain rfl := Option.some.inj h
    simp_all [splitLines]

lemma splitLines_append {line behind : List Char} {lines : List (List Char)} (hline : IsLine line)
    (h : splitLines behind = [] :: lines) : splitLines (line ++ behind) = line :: lines := by
  induction line with
  | nil => exact h
  | cons c line ih =>
    obtain ⟨hc, hrest⟩ := List.forall_mem_cons.mp hline
    obtain ⟨first, others, hfirst, htext⟩ := splitLines_cons hc (line ++ behind)
    rw [ih hrest, List.cons.injEq] at hfirst
    rw [List.cons_append, htext, ← hfirst.1, ← hfirst.2]

lemma splitLines_break {line behind rest : List Char} (hline : IsLine line)
    (h : afterBreak? behind = some rest) : splitLines (line ++ behind) = line :: splitLines rest :=
  splitLines_append hline (splitLines_of_afterBreak? h)

lemma splitLines_of_isLine {line : List Char} (hline : IsLine line) : splitLines line = [line] := by
  have h : splitLines (line ++ []) = [line] := splitLines_append hline rfl
  rwa [List.append_nil] at h

lemma exists_eq_line_append (text : List Char) : ∃ line behind, text = line ++ behind ∧ IsLine line ∧
    (behind = [] ∨ ∃ rest, afterBreak? behind = some rest) := by
  induction text with
  | nil => exact ⟨[], [], rfl, List.forall_mem_nil _, .inl rfl⟩
  | cons c text ih =>
    by_cases hc : c = '\n' ∨ c = '\r'
    · exact ⟨[], c :: text, rfl, List.forall_mem_nil _, .inr (exists_afterBreak? hc text)⟩
    · obtain ⟨line, behind, rfl, hline, hbehind⟩ := ih
      exact ⟨c :: line, behind, rfl, List.forall_mem_cons.mpr ⟨hc, hline⟩, hbehind⟩

/-- Going through a text line by line: the last line has no end. -/
theorem line_induction {motive : List Char → Prop} (last : ∀ line, IsLine line → motive line)
    (step : ∀ line behind rest, IsLine line → afterBreak? behind = some rest → motive rest →
      motive (line ++ behind)) (text : List Char) : motive text := by
  obtain ⟨line, behind, htext, hline, rfl | ⟨rest, hrest⟩⟩ := exists_eq_line_append text
  · rw [htext, List.append_nil]
    exact last line hline
  · have := length_lt_of_afterBreak? hrest
    rw [htext]
    exact step line behind rest hline hrest (line_induction last step rest)
termination_by text.length
decreasing_by
  rw [htext, List.length_append]
  omega

/-! ### Ends of a text -/

lemma dropEndWhile_sublist {α : Type} (p : α → Bool) (l : List α) :
    (dropEndWhile p l).Sublist l := by
  have h := (List.dropWhile_sublist (l := l.reverse) p).reverse
  rwa [List.reverse_reverse] at h

lemma stripWhile_sublist {α : Type} (p : α → Bool) (l : List α) :
    (stripWhile p l).Sublist l :=
  (dropEndWhile_sublist p _).trans (List.dropWhile_sublist p)

lemma dropEndWhile_cons {α : Type} (p : α → Bool) (c : α) (l : List α) :
    dropEndWhile p (c :: l) = if p c ∧ dropEndWhile p l = [] then [] else c :: dropEndWhile p l := by
  simp only [dropEndWhile, List.reverse_cons, List.dropWhile_append, List.reverse_eq_nil_iff]
  by_cases hl : l.reverse.dropWhile p = []
  · cases hc : p c <;> simp [hl, hc]
  · simp [hl]

lemma dropWhile_append_of_not {α : Type} {p : α → Bool} {left l : List α}
    (hleft : ∀ c ∈ left, p c) (hl : ∀ c ∈ l.head?, ¬p c) : (left ++ l).dropWhile p = l := by
  rw [List.dropWhile_append_of_pos hleft]
  cases l with
  | nil => rfl
  | cons c l => exact List.dropWhile_cons_of_neg (hl c rfl)

lemma dropEndWhile_append_of_not {α : Type} {p : α → Bool} {l right : List α}
    (hright : ∀ c ∈ right, p c) (hl : ∀ c ∈ l.getLast?, ¬p c) :
    dropEndWhile p (l ++ right) = l := by
  rw [dropEndWhile, List.reverse_append, dropWhile_append_of_not, List.reverse_reverse]
  · simpa using hright
  · simpa using hl

/-- Removing what a text is wrapped in. -/
lemma stripWhile_append_of_not {α : Type} {p : α → Bool} {left l right : List α}
    (hleft : ∀ c ∈ left, p c) (hright : ∀ c ∈ right, p c) (hhead : ∀ c ∈ l.head?, ¬p c)
    (hlast : ∀ c ∈ l.getLast?, ¬p c) : stripWhile p (left ++ l ++ right) = l := by
  cases l with
  | nil =>
    have hall : ∀ c ∈ left ++ right, p c := List.forall_mem_append.mpr ⟨hleft, hright⟩
    have := dropWhile_append_of_not hall (l := []) (by simp)
    rw [stripWhile, List.append_nil, ← List.append_nil (left ++ right), this, Text.dropEndWhile_nil]
  | cons c l =>
    have := dropWhile_append_of_not hleft (l := c :: l ++ right) (by simpa using hhead)
    rw [stripWhile, List.append_assoc, this, dropEndWhile_append_of_not hright hlast]

lemma stripWhile_of_not {α : Type} {p : α → Bool} {l : List α} (h : ∀ c ∈ l, ¬p c) :
    stripWhile p l = l := by
  have hstrip : stripWhile p ([] ++ l ++ []) = l :=
    stripWhile_append_of_not (List.forall_mem_nil _) (List.forall_mem_nil _)
      (fun c hc => h c (List.mem_of_mem_head? hc)) (fun c hc => h c (List.mem_of_mem_getLast? hc))
  rwa [List.nil_append, List.append_nil] at hstrip

/-! ### Occurrences -/

lemma occursIn_eq_true {part text : List Char} : Text.occursIn part text = true ↔ part <:+: text := by
  induction text with
  | nil => rw [Text.occursIn, List.isEmpty_iff, List.infix_nil]
  | cons c rest ih =>
    rw [Text.occursIn, Bool.or_eq_true, List.isPrefixOf_iff_prefix, ih, List.infix_cons_iff]

end TypedTables.Proofs
