import TypedTables.Proofs.Text.Split

/-!
# Replacing a token

Replacing a token joins the pieces between its occurrences with the new value. A text that shares no
character with the token bounds the search: no occurrence goes over its front, and none is in it.
-/

namespace TypedTables.Proofs

open Text (joinChars replaceAll replaceFrom)

variable {token value front back solid : List Char}

/-- The pieces that the occurrences of `token` leave of a text, counted as `replaceFrom` does. -/
def piecesFrom (token : List Char) : Nat → List Char → List (List Char)
  | _, [] => [[]]
  | skip + 1, _ :: rest => piecesFrom token skip rest
  | 0, c :: rest =>
    if token.isPrefixOf (c :: rest) then [] :: piecesFrom token (token.length - 1) rest
    else (piecesFrom token 0 rest).modifyHead (c :: ·)

lemma piecesFrom_ne_nil (token : List Char) (skip : Nat) (text : List Char) :
    piecesFrom token skip text ≠ [] := by
  fun_induction piecesFrom token skip text <;> simp_all

lemma replaceFrom_eq_joinChars (token value : List Char) (skip : Nat) (text : List Char) :
    replaceFrom token value skip text = joinChars value (piecesFrom token skip text) := by
  fun_induction piecesFrom token skip text with
  | case1 skip => rw [joinChars_singleton, replaceFrom]
  | case2 skip c rest ih => rw [replaceFrom, ih]
  | case3 c rest hfound ih =>
    rw [replaceFrom, if_pos hfound, ih, joinChars_cons_of_ne_nil _ _ (piecesFrom_ne_nil _ _ _)]
    rfl
  | case4 c rest hfound ih =>
    obtain ⟨piece, pieces, hpieces⟩ := List.exists_cons_of_ne_nil (piecesFrom_ne_nil token 0 rest)
    rw [replaceFrom, if_neg hfound, ih, hpieces, List.modifyHead_cons, joinChars_cons,
      joinChars_cons, List.cons_append]

/-- Whether no occurrence of a token goes over the border between two texts. -/
def IsBorder (token front back : List Char) : Prop :=
  ∀ x y, x ≠ [] → y ≠ [] → x <:+ front → y <+: back → token ≠ x ++ y

lemma isBorder_of_head (h : ∀ c ∈ back.head?, c ∉ token) : IsBorder token front back := by
  rintro x y - hy - ⟨rest, rfl⟩ rfl
  obtain ⟨d, y, rfl⟩ := List.exists_cons_of_ne_nil hy
  exact h d rfl (List.mem_append_right x List.mem_cons_self)

lemma isBorder_of_getLast (h : ∀ c ∈ front.getLast?, c ∉ token.dropLast) :
    IsBorder token front back := by
  rintro x y hx hy ⟨rest, rfl⟩ - rfl
  obtain ⟨x, d, rfl⟩ := (List.eq_nil_or_concat' x).resolve_left hx
  refine h d (by simp) ?_
  rw [List.dropLast_append_of_ne_nil hy]
  simp

lemma IsBorder.of_suffix {front' : List Char} (h : IsBorder token front back)
    (hfront : front' <:+ front) : IsBorder token front' back :=
  fun x y hx hy hsuffix hprefix => h x y hx hy (hsuffix.trans hfront) hprefix

lemma IsBorder.infix_append_iff (h : IsBorder token front back) :
    token <:+: front ++ back ↔ token <:+: front ∨ token <:+: back := by
  rw [List.infix_append_iff]
  constructor
  · rintro (hfront | hback | ⟨x, y, rfl, hx, hy⟩)
    · exact .inl hfront
    · exact .inr hback
    · by_cases hnil : x = []
      · exact .inr (by simpa [hnil] using hy.isInfix)
      · by_cases hnil' : y = []
        · exact .inl (by simpa [hnil'] using hx.isInfix)
        · exact absurd rfl (h x y hnil hnil' hx hy)
  · rintro (hfront | hback)
    · exact .inl hfront
    · exact .inr (.inl hback)

/-- An occurrence of `token` that starts before a border ends before it. -/
lemma IsBorder.isPrefixOf_append (h : IsBorder token front back) (hne : front ≠ []) :
    token.isPrefixOf (front ++ back) = token.isPrefixOf front := by
  rw [Bool.eq_iff_iff, List.isPrefixOf_iff_prefix, List.isPrefixOf_iff_prefix]
  refine ⟨fun hprefix => ?_, fun hprefix => hprefix.trans (List.prefix_append front back)⟩
  rcases List.prefix_or_prefix_of_prefix hprefix (List.prefix_append front back) with
    hfront | ⟨behind, rfl⟩
  · exact hfront
  · rw [List.prefix_append_right_inj] at hprefix
    by_cases hbehind : behind = []
    · rw [hbehind, List.append_nil]
    · exact absurd rfl (h front behind hne hbehind List.suffix_rfl hprefix)

lemma IsBorder.replaceFrom_append (h : IsBorder token front back) {skip : Nat}
    (hskip : skip ≤ front.length) :
    replaceFrom token value skip (front ++ back) =
      replaceFrom token value skip front ++ replaceFrom token value 0 back := by
  induction front generalizing skip with
  | nil =>
    obtain rfl : skip = 0 := Nat.le_zero.mp hskip
    rfl
  | cons c front ih =>
    have hrest := h.of_suffix (List.suffix_cons c front)
    cases skip with
    | succ skip =>
      rw [List.cons_append, replaceFrom, replaceFrom, ih hrest (Nat.le_of_succ_le_succ hskip)]
    | zero =>
      have hprefix := h.isPrefixOf_append (List.cons_ne_nil c front)
      rw [List.cons_append] at hprefix ⊢
      rw [replaceFrom, replaceFrom, hprefix]
      split
      · next hfound =>
        have hlength := (List.isPrefixOf_iff_prefix.mp hfound).length_le
        rw [List.length_cons] at hlength
        rw [ih hrest (by omega), List.append_assoc]
      · rw [ih hrest (Nat.zero_le _), List.cons_append]

lemma replaceAll_eq_self (h : ¬token <:+: front) : replaceAll token value front = front := by
  induction front with
  | nil => rfl
  | cons c front ih =>
    rw [List.infix_cons_iff, not_or, ← List.isPrefixOf_iff_prefix] at h
    rw [replaceAll, replaceFrom, if_neg h.1, ← replaceAll, ih h.2]

lemma replaceFrom_skip (front back : List Char) :
    replaceFrom token value front.length (front ++ back) = replaceAll token value back := by
  induction front with
  | nil => rfl
  | cons c front ih => rw [List.length_cons, List.cons_append, replaceFrom, ih]

lemma replaceAll_token_append (hne : token ≠ []) (hback : ¬token <:+: back) :
    replaceAll token value (token ++ back) = value ++ back := by
  obtain ⟨c, rest, hcons⟩ := List.exists_cons_of_ne_nil hne
  have hfound : token.isPrefixOf (c :: (rest ++ back)) :=
    List.isPrefixOf_iff_prefix.mpr ⟨back, by rw [hcons, List.cons_append]⟩
  have hlength : token.length - 1 = rest.length := by rw [hcons, List.length_cons, Nat.add_sub_cancel]
  nth_rewrite 2 [hcons]
  rw [List.cons_append, replaceAll, replaceFrom, if_pos hfound, hlength, replaceFrom_skip,
    replaceAll_eq_self hback]

/-- A text without any of the token's characters is passed over. -/
lemma replaceAll_solid_append (htoken : token ≠ []) (hsolid : ∀ c ∈ solid, c ∉ token)
    (rest : List Char) :
    replaceAll token value (solid ++ rest) = solid ++ replaceAll token value rest := by
  induction solid with
  | nil => rfl
  | cons c solid ih =>
    obtain ⟨hc, hsolid⟩ := List.forall_mem_cons.mp hsolid
    have hfound : ¬token.isPrefixOf (c :: (solid ++ rest)) := by
      rw [List.isPrefixOf_iff_prefix]
      intro h
      obtain ⟨d, token, rfl⟩ := List.exists_cons_of_ne_nil htoken
      rw [List.cons_prefix_cons] at h
      exact hc (h.1 ▸ List.mem_cons_self)
    rw [List.cons_append, replaceAll, replaceFrom, if_neg hfound, ← replaceAll, ih hsolid,
      List.cons_append]

/-- Replacing a token leaves a text in its place between the segments that it joins, and works on
each segment by itself. -/
theorem replaceAll_joinChars (htoken : token ≠ []) (hne : solid ≠ [])
    (hsolid : ∀ c ∈ solid, c ∉ token) (segments : List (List Char)) :
    replaceAll token value (joinChars solid segments) =
      joinChars solid (segments.map (replaceAll token value)) := by
  induction segments with
  | nil => rfl
  | cons segment segments ih =>
    by_cases hsegments : segments = []
    · rw [hsegments, List.map_singleton, joinChars_singleton, joinChars_singleton]
    have hhead : ∀ c ∈ (solid ++ joinChars solid segments).head?, c ∉ token := by
      obtain ⟨d, solid, rfl⟩ := List.exists_cons_of_ne_nil hne
      simpa using hsolid d List.mem_cons_self
    calc
      replaceAll token value (joinChars solid (segment :: segments))
        = replaceAll token value (segment ++ (solid ++ joinChars solid segments)) := by
          rw [joinChars_cons_of_ne_nil _ _ hsegments, List.append_assoc]
      _ = replaceAll token value segment ++
            (solid ++ replaceAll token value (joinChars solid segments)) := by
          rw [replaceAll, (isBorder_of_head hhead).replaceFrom_append (Nat.zero_le _), ← replaceAll,
            ← replaceAll, replaceAll_solid_append htoken hsolid]
      _ = joinChars solid ((segment :: segments).map (replaceAll token value)) := by
          rw [ih, List.map_cons, joinChars_cons_of_ne_nil _ _ (mt List.map_eq_nil_iff.mp hsegments),
            List.append_assoc]

end TypedTables.Proofs
