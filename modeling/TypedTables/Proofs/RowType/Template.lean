import TypedTables.RowType.Template
import TypedTables.Proofs.Number.Integer
import TypedTables.Proofs.RowType.Names
import TypedTables.Proofs.Text.Replace

/-!
# Emitting again

Code that is emitted at another time differs only in the timestamp. The timestamp is put into the
template first, so every later step works on a text that holds it: none of them takes it apart, and
none does anything else around it because of what it says.
-/

namespace TypedTables.Proofs

open Template (fill fillBlock trimLineEnds)
open Text (digitValue? dropEndWhile isBlank joinChars replaceAll splitOn)

/-- Whether a timestamp can hold the character. -/
def isTimestampChar (c : Char) : Bool :=
  (digitValue? c).isSome || ['-', ':', '.', ' '].contains c

/-- What a clock shows: digits with signs or blanks between them. -/
structure IsTimestamp (timestamp : String) : Prop where
  chars : timestamp.toList.all isTimestampChar
  head : (timestamp.toList.head?.bind digitValue?).isSome
  last : (timestamp.toList.getLast?.bind digitValue?).isSome

/-- A token that shares no character with timestamps. -/
structure IsPlaceholder (token : String) : Prop where
  chars : token.toList.all fun c => !isTimestampChar c
  ne_nil : token.toList ≠ []

/-- The timestamp stands between segments that are the same for all timestamps. -/
def IsSegmented (text : String → List Char) : Prop :=
  ∃ segments, segments ≠ [] ∧
    ∀ timestamp, IsTimestamp timestamp → text timestamp = joinChars timestamp.toList segments

variable {timestamp token value : String} {text : String → List Char}

lemma exists_digit_of_bind {c? : Option Char} (h : (c?.bind digitValue?).isSome) :
    ∃ c, c? = some c ∧ (digitValue? c).isSome := by
  cases c? with
  | none => cases h
  | some c => exact ⟨c, rfl, h⟩

lemma IsTimestamp.toList_ne_nil (h : IsTimestamp timestamp) : timestamp.toList ≠ [] := by
  obtain ⟨c, hc, -⟩ := exists_digit_of_bind h.head
  rintro hnil
  rw [hnil] at hc
  cases hc

lemma IsPlaceholder.append_newline (h : IsPlaceholder token) : IsPlaceholder (token ++ "\n") where
  chars := by
    rw [String.toList_append, List.all_append, h.chars]
    decide
  ne_nil := by
    rw [String.toList_append]
    exact List.append_ne_nil_of_left_ne_nil h.ne_nil _

lemma not_mem_of_isPlaceholder (htime : IsTimestamp timestamp) (htoken : IsPlaceholder token) :
    ∀ c ∈ timestamp.toList, c ∉ token.toList := by
  intro c hc hmem
  have htimestamp := List.all_eq_true.mp htime.chars c hc
  have hother := List.all_eq_true.mp htoken.chars c hmem
  simp [htimestamp] at hother

/-! ### Filling -/

lemma isSegmented_fill_timestamp (token : String) (template : List Char) :
    IsSegmented fun timestamp => fill token timestamp template :=
  ⟨piecesFrom token.toList 0 template, piecesFrom_ne_nil _ _ _,
    fun timestamp _ => replaceFrom_eq_joinChars token.toList timestamp.toList 0 template⟩

lemma IsSegmented.fill (htext : IsSegmented text) (htoken : IsPlaceholder token) (value : String) :
    IsSegmented fun timestamp => fill token value (text timestamp) := by
  obtain ⟨segments, hne, hsegments⟩ := htext
  refine ⟨segments.map (replaceAll token.toList value.toList), mt List.map_eq_nil_iff.mp hne, ?_⟩
  intro timestamp htime
  change replaceAll token.toList value.toList (text timestamp) = _
  rw [hsegments timestamp htime, replaceAll_joinChars htoken.ne_nil htime.toList_ne_nil
    (not_mem_of_isPlaceholder htime htoken)]

lemma IsSegmented.fillBlock (htext : IsSegmented text) (htoken : IsPlaceholder token)
    (value : String) : IsSegmented fun timestamp => fillBlock token value (text timestamp) := by
  unfold Template.fillBlock
  split
  · exact (htext.fill htoken.append_newline "").fill htoken ""
  · exact htext.fill htoken value

/-! ### White space at the ends of lines -/

/-- A blank is dropped if nothing is kept of its line behind it. -/
lemma trimLineEnds_cons (c : Char) (rest : List Char) : trimLineEnds (c :: rest) =
    if c ≠ '\n' ∧ isBlank c ∧ (trimLineEnds rest).head?.all (· == '\n') then trimLineEnds rest
    else c :: trimLineEnds rest := by
  by_cases hc : c = '\n'
  · rw [if_neg (fun h => h.1 hc), Template.trimLineEnds, splitOn, if_pos hc, List.map_cons,
      joinChars_cons_of_ne_nil _ _ (mt List.map_eq_nil_iff.mp (Text.splitOn_ne_nil _ _)), hc]
    rfl
  obtain ⟨piece, pieces, hrest, htext⟩ := splitOn_cons hc rest
  have hpiece : '\n' ∉ piece := not_mem_of_mem_splitOn (hrest ▸ List.mem_cons_self)
  have htail : ((pieces.map (dropEndWhile isBlank)).flatMap (['\n'] ++ ·)).head?.all
      (· == '\n') := by
    cases pieces <;> simp
  rw [Template.trimLineEnds, Template.trimLineEnds, hrest, htext, List.map_cons, List.map_cons,
    joinChars_cons, joinChars_cons, dropEndWhile_cons]
  cases hkept : dropEndWhile isBlank piece with
  | nil => by_cases hblank : isBlank c <;> simp_all
  | cons d kept =>
    have hd : d ∈ piece := (dropEndWhile_sublist isBlank piece).subset (hkept ▸ List.mem_cons_self)
    have hdline : d ≠ '\n' := fun h => hpiece (h ▸ hd)
    simp [hdline]

/-- A text that ends with something to keep stays as it is, whatever follows. -/
lemma trimLineEnds_append {solid : List Char} (hline : '\n' ∉ solid)
    (hlast : ∀ c ∈ solid.getLast?, ¬isBlank c) (rest : List Char) :
    trimLineEnds (solid ++ rest) = solid ++ trimLineEnds rest := by
  induction solid with
  | nil => rfl
  | cons c solid ih =>
    obtain ⟨hc, hline⟩ := not_or.mp (mt List.mem_cons.mpr hline)
    rw [List.cons_append, trimLineEnds_cons]
    cases solid with
    | nil => rw [if_neg fun h => hlast c rfl h.2.1]; rfl
    | cons d solid =>
      have hd : d ≠ '\n' := fun h => hline (h ▸ List.mem_cons_self)
      rw [ih hline (by simpa using hlast), if_neg fun h => hd (by simpa using h.2.2)]
      rfl

/-- Lines are trimmed one by one. -/
lemma trimLineEnds_line (front back : List Char) : trimLineEnds (front ++ '\n' :: back) =
    trimLineEnds front ++ '\n' :: trimLineEnds back := by
  induction front with
  | nil => rw [List.nil_append, trimLineEnds_cons, if_neg fun h => h.1 rfl]; rfl
  | cons c front ih =>
    rw [List.cons_append, trimLineEnds_cons, trimLineEnds_cons c front, ih]
    have hhead : (trimLineEnds front ++ '\n' :: trimLineEnds back).head?.all (· == '\n') =
        (trimLineEnds front).head?.all (· == '\n') := by
      cases trimLineEnds front <;> rfl
    rw [hhead]
    split <;> rfl

lemma trimLineEnds_cons_of_not {c : Char} (hc : ¬isBlank c) (rest : List Char) :
    trimLineEnds (c :: rest) = c :: trimLineEnds rest := by
  rw [trimLineEnds_cons, if_neg fun h => hc h.2.1]

lemma exists_trimLineEnds_append (front : List Char) : ∃ kept, ∀ back : List Char,
    (∃ c ∈ back.head?, ¬isBlank c) → trimLineEnds (front ++ back) = kept ++ trimLineEnds back := by
  induction front with
  | nil => exact ⟨[], fun _ _ => rfl⟩
  | cons c front ih =>
    obtain ⟨kept, hkept⟩ := ih
    -- whether `c` is kept shows in `kept` alone, since `back` does not start with a line end
    refine ⟨if c ≠ '\n' ∧ isBlank c ∧ kept.head? = some '\n' then kept else c :: kept, ?_⟩
    rintro back ⟨d, hd, hblank⟩
    have hend : (kept ++ trimLineEnds back).head?.all (· == '\n') = true ↔
        kept.head? = some '\n' := by
      obtain ⟨back, rfl⟩ := List.head?_eq_some_iff.mp hd
      rw [trimLineEnds_cons_of_not hblank]
      have hdline : d ≠ '\n' := by
        rintro rfl
        exact hblank (by decide)
      cases kept <;> simp [hdline]
    rw [List.cons_append, trimLineEnds_cons, hkept back ⟨d, hd, hblank⟩]
    simp only [hend]
    split <;> rfl

lemma IsTimestamp.trimLineEnds_append (h : IsTimestamp timestamp) (rest : List Char) :
    Template.trimLineEnds (timestamp.toList ++ rest) =
      timestamp.toList ++ Template.trimLineEnds rest := by
  refine Proofs.trimLineEnds_append ?_ ?_ rest
  · intro hmem
    exact absurd (List.all_eq_true.mp h.chars '\n' hmem) (by decide)
  · intro c hc
    obtain ⟨d, hd, hdigit⟩ := exists_digit_of_bind h.last
    obtain rfl : c = d := Option.some.inj (hc.symm.trans hd)
    exact not_isBlank_of_digit hdigit

lemma exists_trimLineEnds_joinChars {segments : List (List Char)} (hne : segments ≠ []) :
    ∃ trimmed, trimmed ≠ [] ∧ ∀ timestamp, IsTimestamp timestamp →
      trimLineEnds (joinChars timestamp.toList segments) = joinChars timestamp.toList trimmed := by
  induction segments with
  | nil => exact absurd rfl hne
  | cons segment segments ih =>
    by_cases hlast : segments = []
    · refine ⟨[trimLineEnds segment], List.cons_ne_nil _ _, fun timestamp _ => ?_⟩
      rw [hlast, joinChars_singleton, joinChars_singleton]
    · obtain ⟨trimmed, htrimmed, h⟩ := ih hlast
      obtain ⟨kept, hkept⟩ := exists_trimLineEnds_append segment
      refine ⟨kept :: trimmed, List.cons_ne_nil _ _, fun timestamp htime => ?_⟩
      have hhead : ∃ c ∈ (timestamp.toList ++ joinChars timestamp.toList segments).head?,
          ¬isBlank c := by
        obtain ⟨c, hc, hdigit⟩ := exists_digit_of_bind htime.head
        obtain ⟨rest, hrest⟩ := List.head?_eq_some_iff.mp hc
        exact ⟨c, by rw [hrest]; rfl, not_isBlank_of_digit hdigit⟩
      calc
        trimLineEnds (joinChars timestamp.toList (segment :: segments))
          = trimLineEnds (segment ++ (timestamp.toList ++ joinChars timestamp.toList segments)) := by
            rw [joinChars_cons_of_ne_nil _ _ hlast, List.append_assoc]
        _ = kept ++ (timestamp.toList ++ trimLineEnds (joinChars timestamp.toList segments)) := by
            rw [hkept _ hhead, htime.trimLineEnds_append]
        _ = joinChars timestamp.toList (kept :: trimmed) := by
            rw [h timestamp htime, joinChars_cons_of_ne_nil _ _ htrimmed, List.append_assoc]

lemma IsSegmented.trimLineEnds (htext : IsSegmented text) :
    IsSegmented fun timestamp => trimLineEnds (text timestamp) := by
  obtain ⟨segments, hne, hsegments⟩ := htext
  obtain ⟨trimmed, htrimmed, h⟩ := exists_trimLineEnds_joinChars hne
  refine ⟨trimmed, htrimmed, fun timestamp htime => ?_⟩
  change Template.trimLineEnds (text timestamp) = _
  rw [hsegments timestamp htime, h timestamp htime]

/-! ### Whole emissions -/

/-- Either one error whatever the timestamp, or texts that differ only in the timestamp. -/
def DiffersOnlyInTimestamp (emitted : String → Except TableError String) : Prop :=
  (∃ e, ∀ timestamp, emitted timestamp = .error e) ∨
    ∃ segments : List String, ∀ timestamp, IsTimestamp timestamp →
      emitted timestamp = .ok (Text.joinWith timestamp segments)

lemma differsOnlyInTimestamp_bind {α : Type} (x : Except TableError α)
    {f : α → String → Except TableError String} (h : ∀ a, DiffersOnlyInTimestamp (f a)) :
    DiffersOnlyInTimestamp fun timestamp => x >>= (f · timestamp) := by
  cases x with
  | error e => exact .inl ⟨e, fun _ => rfl⟩
  | ok a => exact h a

lemma IsSegmented.differsOnlyInTimestamp (h : IsSegmented text) :
    DiffersOnlyInTimestamp fun timestamp => .ok (String.ofList (text timestamp)) := by
  obtain ⟨segments, -, hsegments⟩ := h
  refine .inr ⟨segments.map String.ofList, fun timestamp htime => congrArg Except.ok ?_⟩
  rw [hsegments timestamp htime, Text.joinWith, List.map_map]
  simp [Function.comp_def]

theorem emit_differsOnlyInTimestamp (t : DataTable) (tableName template : String)
    (options : EmitOptions) : DiffersOnlyInTimestamp (t.emit tableName template options) := by
  refine differsOnlyInTimestamp_bind t.schema fun schema => ?_
  refine differsOnlyInTimestamp_bind (RowType.ofSchema options.space schema) fun rowType => ?_
  refine differsOnlyInTimestamp_bind (t.comment t.layout.idColumn) fun idComment => ?_
  refine IsSegmented.differsOnlyInTimestamp (IsSegmented.trimLineEnds ?_)
  -- from the last step back to the first, which puts the timestamp in
  iterate 4 refine IsSegmented.fillBlock ?_ ⟨by decide +kernel, by decide +kernel⟩ _
  iterate 4 refine IsSegmented.fill ?_ ⟨by decide +kernel, by decide +kernel⟩ _
  exact isSegmented_fill_timestamp _ _

theorem emit_differsOnlyInTimestamp_quests : ∃ t segments,
    DataTable.ofSource quests ['"'] {} Registry.standard = .ok t ∧
      IsTimestamp "2024-05-01 10:00:00" ∧ IsTimestamp "7" ∧
      t.emit "quest" standardTemplate {} "2024-05-01 10:00:00" =
        .ok (Text.joinWith "2024-05-01 10:00:00" segments) ∧
      t.emit "quest" standardTemplate {} "7" = .ok (Text.joinWith "7" segments) := by
  have hemits : ((DataTable.ofSource quests ['"'] {} Registry.standard).bind fun t =>
      t.emit "quest" standardTemplate {} "7").toOption.isSome = true := by
    decide +kernel
  obtain ⟨code, hcode⟩ := Option.isSome_iff_exists.mp hemits
  obtain ⟨t, ht, hcode⟩ := bind_eq_ok.mp (toOption_eq_some.mp hcode)
  have hshort : IsTimestamp "7" := ⟨by decide +kernel, by decide +kernel, by decide +kernel⟩
  have hlong : IsTimestamp "2024-05-01 10:00:00" :=
    ⟨by decide +kernel, by decide +kernel, by decide +kernel⟩
  rcases emit_differsOnlyInTimestamp t "quest" standardTemplate {} with ⟨e, he⟩ | ⟨segments, h⟩
  · exact absurd (hcode.symm.trans (he "7")) (by simp)
  · exact ⟨t, segments, ht, hlong, hshort, h _ hlong, h _ hshort⟩

end TypedTables.Proofs
