import TypedTables.Proofs.ColumnType.Form

/-!
# Types whose values take bytes

Every scalar takes bytes, also the empty string, whose length is written. A custom type takes bytes if
one of its components does: it has values of no bytes only if nothing but empty custom types is nested
in it.
-/

namespace TypedTables

/-- Whether there is a scalar among what a type is made of. -/
inductive ColumnType.TakesBytes : ColumnType → Prop
  | builtin (b : Builtin) : TakesBytes (.builtin b)
  | custom {name typeText : String} {copies : Bool} {components : List ColumnType}
    {t : ColumnType} : t ∈ components → TakesBytes t →
      TakesBytes (.custom name typeText copies components)

namespace Proofs

lemma encode?_ne_nil {b : Builtin} {v : Value} {bytes : List UInt8} (h : b.encode? v = some bytes) :
    bytes ≠ [] := by
  unfold Builtin.encode? at h
  split at h <;> simp only [Option.some.injEq, reduceCtorEq] at h
  case h_12 s => exact h ▸ List.append_ne_nil_of_left_ne_nil (encode_ne_nil _) _
  case h_4 | h_5 | h_6 | h_7 | h_8 | h_9 => exact h ▸ encode_ne_nil _
  all_goals exact h ▸ List.cons_ne_nil _ _

lemma Condenses.ne_nil {taken least : List UInt8} (h : Condenses taken least) (hne : least ≠ []) :
    taken ≠ [] := by
  have hpos := List.length_pos_iff.mpr hne
  have hlength := h.length_le
  exact List.length_pos_iff.mp (by omega)

lemma takes_builtin_ne_nil (b : Builtin) : Takes b.read fun _ taken => taken ≠ [] := by
  apply takes_mono (takes_builtin b)
  rintro v taken ⟨least, hleast, hcondenses, -⟩
  exact hcondenses.ne_nil (encode?_ne_nil hleast)

/-- A sequence of readings takes bytes if one of them does. -/
lemma takes_readEach_ne_nil {types : List ColumnType} {t : ColumnType} (hmem : t ∈ types)
    (h : Takes t.read fun _ taken => taken ≠ []) :
    Takes (ColumnType.readEach types) fun _ taken => taken ≠ [] := by
  induction types with
  | nil => cases hmem
  | cons first types ih =>
    rw [ColumnType.readEach]
    rcases List.mem_cons.mp hmem with rfl | hrest
    · refine takes_mono (takes_bind h fun v => takes_bind (takes_readEach types) fun rest =>
        takes_pure (v :: rest)) ?_
      rintro values taken ⟨v, taken₁, taken₂, rfl, hne, -⟩
      exact List.append_ne_nil_of_left_ne_nil hne taken₂
    · refine takes_mono (takes_bind (takes_read first) fun v => takes_bind (ih hrest) fun rest =>
        takes_pure (v :: rest)) ?_
      rintro values taken ⟨v, taken₁, _, rfl, -, rest, taken₂, taken₃, rfl, hne, -⟩
      exact List.append_ne_nil_of_right_ne_nil taken₁ (List.append_ne_nil_of_left_ne_nil hne taken₃)

theorem takes_read_ne_nil {t : ColumnType} (h : t.TakesBytes) :
    Takes t.read fun _ taken => taken ≠ [] := by
  induction h with
  | builtin b =>
    rw [ColumnType.read]
    exact takes_builtin_ne_nil b
  | custom hmem _ ih =>
    rw [ColumnType.read]
    exact takes_map Value.composite (takes_readEach_ne_nil hmem ih) fun _ _ hne => hne

mutual

/-- A type without a scalar in it has a value that is read from no bytes. -/
theorem exists_reads_nil : ∀ t : ColumnType, ¬t.TakesBytes → ∃ v, Reads t.read [] v
  | .builtin b, h => absurd (.builtin b) h
  | .custom name typeText copies components, h => by
    have hcomponents : ∀ t ∈ components, ¬t.TakesBytes := fun t hmem ht => h (.custom hmem ht)
    obtain ⟨values, hvalues⟩ := exists_readsEach_nil components hcomponents
    rw [ColumnType.read]
    exact ⟨_, reads_map Value.composite hvalues⟩

theorem exists_readsEach_nil : ∀ types : List ColumnType, (∀ t ∈ types, ¬t.TakesBytes) →
    ∃ values, Reads (ColumnType.readEach types) [] values
  | [], _ => ⟨[], reads_pure []⟩
  | t :: types, h => by
    obtain ⟨ht, htypes⟩ := List.forall_mem_cons.mp h
    obtain ⟨v, hv⟩ := exists_reads_nil t ht
    obtain ⟨values, hvalues⟩ := exists_readsEach_nil types htypes
    rw [ColumnType.readEach]
    exact ⟨_, reads_bind hv (reads_bind hvalues (reads_pure (v :: values)))⟩

end

end Proofs

end TypedTables
