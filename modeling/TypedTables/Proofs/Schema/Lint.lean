import TypedTables.Schema.Lint
import TypedTables.Proofs.Schema.Grouping

/-!
# What a clean judgement says

Every pass over the columns of a schema is shown to find what it is there for: if a pass reports no
error, nothing of its kind is wrong. Main statement: `exists_clean`, which puts the passes together.
-/

namespace TypedTables.Proofs

open Lint (nameFindings accessors fieldCollisions sharedAccessors itemFindings collectionFindings
  isReserved)
open Naming (snakeCase isColumnName numericSuffix?)

variable {s : Schema}

def IsClean (findings : List Finding) : Prop := ∀ m ∈ findings, m.cause.severity ≠ .error

lemma errorFindings_eq_nil {findings : List Finding} :
    errorFindings findings = [] ↔ IsClean findings := by
  simp [errorFindings, IsClean, List.filter_eq_nil_iff]

lemma isClean_byColumn {findings : List Finding} (h : IsClean (Lint.byColumn findings)) :
    IsClean findings :=
  fun m hm => h m (List.mem_mergeSort.mpr hm)

lemma isClean_append {first second : List Finding} :
    IsClean (first ++ second) ↔ IsClean first ∧ IsClean second := by
  exact List.forall_mem_append

lemma not_isClean_cons {m : Finding} {rest : List Finding} (h : m.cause.severity = .error) :
    ¬IsClean (m :: rest) :=
  fun hclean => hclean m List.mem_cons_self h

/-! ### Names of columns -/

/-- Names without errors: those of data are valid and not reserved, and their emitted forms differ
from each other and from all forms before. -/
lemma nameFindings_sound {seen : List (String × String)} {fields : List Field}
    (h : IsClean (nameFindings seen fields)) :
    (∀ f ∈ fields, f.role = .data →
      isColumnName f.name = true ∧ isReserved (snakeCase f.name) = false) ∧
    (fields.map fun f => snakeCase f.name).Nodup ∧
    ∀ f ∈ fields, seen.lookup (snakeCase f.name) = none := by
  induction fields generalizing seen with
  | nil => simp
  | cons f rest ih =>
    rw [nameFindings] at h
    by_cases hinvalid : f.role = .data ∧ isColumnName f.name = false
    · rw [if_pos hinvalid] at h
      exact absurd h (not_isClean_cons rfl)
    · rw [if_neg hinvalid] at h
      by_cases hreserved : f.role = .data ∧ isReserved (snakeCase f.name) = true
      · rw [if_pos hreserved] at h
        exact absurd h (not_isClean_cons rfl)
      · rw [if_neg hreserved] at h
        cases hlookup : seen.lookup (snakeCase f.name) with
        | some earlier =>
          simp only [hlookup] at h
          exact absurd h (not_isClean_cons rfl)
        | none =>
          simp only [hlookup] at h
          obtain ⟨hvalid, hnodup, hfresh⟩ := ih h
          simp only [List.lookup_cons] at hfresh
          have hapart : ∀ g ∈ rest, snakeCase g.name ≠ snakeCase f.name ∧
              seen.lookup (snakeCase g.name) = none := by
            intro g hg
            have hnone := hfresh g hg
            by_cases hsame : snakeCase g.name = snakeCase f.name
            · simp [hsame] at hnone
            · exact ⟨hsame, by simpa [beq_false_of_ne hsame] using hnone⟩
          refine ⟨?_, ?_, ?_⟩
          · intro g hg hdata
            rcases List.mem_cons.mp hg with rfl | hg
            · exact ⟨by simpa [hdata] using hinvalid, by simpa [hdata] using hreserved⟩
            · exact hvalid g hg hdata
          · rw [List.map_cons, List.nodup_cons]
            refine ⟨?_, hnodup⟩
            intro hmem
            obtain ⟨g, hg, hsame⟩ := List.mem_map.mp hmem
            exact (hapart g hg).1 hsame
          · intro g hg
            rcases List.mem_cons.mp hg with rfl | hg
            · exact hlookup
            · exact (hapart g hg).2

/-! ### Accessors of collections -/

lemma fieldCollisions_sound {c : Collection} (h : IsClean (fieldCollisions s c)) :
    ∀ f ∈ s.fields, snakeCase f.name ∉ accessors c := by
  intro f hf hmem
  refine h (f.finding (.accessorCollision f.name (snakeCase f.name) c.name)) ?_ rfl
  refine List.mem_filterMap.mpr ⟨f, hf, ?_⟩
  rw [if_pos (List.contains_iff_mem.mpr hmem)]

/-- Accessors without errors differ from each other and from all that had an owner; afterwards all
of them have one. -/
lemma sharedAccessors_sound {first : CollectionItem} {collection : String}
    {owners : List (String × String)} {names : List String}
    (h : IsClean (sharedAccessors first collection owners names).1) :
    names.Nodup ∧ (∀ a ∈ names, owners.lookup a = none) ∧
      ∀ a, (sharedAccessors first collection owners names).2.lookup a = none →
        owners.lookup a = none ∧ a ∉ names := by
  induction names generalizing owners with
  | nil =>
    refine ⟨List.nodup_nil, by simp, ?_⟩
    intro a ha
    exact ⟨ha, by simp⟩
  | cons name rest ih =>
    rw [sharedAccessors] at h ⊢
    cases hlookup : owners.lookup name with
    | some owner =>
      simp only [hlookup] at h
      exact absurd h (not_isClean_cons rfl)
    | none =>
      simp only [hlookup] at h
      obtain ⟨hnodup, hfresh, hafter⟩ := ih h
      have hapart : ∀ a, ((name, collection) :: owners).lookup a = none →
          owners.lookup a = none ∧ a ≠ name := by
        intro a hnone
        by_cases hsame : a = name
        · simp [hsame] at hnone
        · exact ⟨by simpa [List.lookup_cons, beq_false_of_ne hsame] using hnone, hsame⟩
      refine ⟨List.nodup_cons.mpr ⟨?_, hnodup⟩, ?_, ?_⟩
      · intro hmem
        exact (hapart name (hfresh name hmem)).2 rfl
      · intro a ha
        rcases List.mem_cons.mp ha with rfl | ha
        · exact hlookup
        · exact (hapart a (hfresh a ha)).1
      · intro a ha
        obtain ⟨hnone, hnotMem⟩ := hafter a ha
        obtain ⟨hnone, hne⟩ := hapart a hnone
        exact ⟨hnone, by simp [hne, hnotMem]⟩

/-- Columns of a collection without errors have its type and its keyword. -/
lemma itemFindings_sound {c : Collection} {keys : List (Int32 × String)}
    {items : List CollectionItem} (h : IsClean (itemFindings s c keys items)) :
    ∀ item ∈ items, ∀ f, s.fields.find? (·.column == item.column) = some f →
      f.type = c.type ∧ f.keyword = c.keyword := by
  induction items generalizing keys with
  | nil => simp
  | cons item rest ih =>
    rw [itemFindings, isClean_append, isClean_append] at h
    obtain ⟨⟨hmixed, -⟩, hrest⟩ := h
    intro other hother f hf
    rcases List.mem_cons.mp hother with rfl | hother
    · simp only [hf] at hmixed
      by_contra hne
      rw [if_pos (by tauto)] at hmixed
      exact not_isClean_cons rfl hmixed
    · exact ih hrest other hother f hf

/-- Collections without errors have accessors that differ from each other, from all that had an
owner, and from all fields, and each has one type. -/
lemma collectionFindings_sound {owners : List (String × String)} {collections : List Collection}
    (hitems : ∀ c ∈ collections, c.items ≠ [])
    (h : IsClean (collectionFindings s owners collections)) :
    (collections.flatMap accessors).Nodup ∧
    (∀ c ∈ collections, ∀ a ∈ accessors c, owners.lookup a = none) ∧
    ∀ c ∈ collections, (∀ f ∈ s.fields, snakeCase f.name ∉ accessors c) ∧
      ∀ item ∈ c.items, ∀ f, s.fields.find? (·.column == item.column) = some f →
        f.type = c.type ∧ f.keyword = c.keyword := by
  induction collections generalizing owners with
  | nil => simp
  | cons c rest ih =>
    obtain ⟨first, items, hfirst⟩ := List.exists_cons_of_ne_nil (hitems c List.mem_cons_self)
    simp only [collectionFindings, hfirst, List.head?_cons, isClean_append] at h
    obtain ⟨⟨⟨hfields, hshared⟩, huniform⟩, hrest⟩ := h
    obtain ⟨hnodup, hfresh, hafter⟩ := sharedAccessors_sound hshared
    obtain ⟨hnodup', hfresh', heach⟩ := ih (fun d hd => hitems d (List.mem_cons_of_mem c hd)) hrest
    refine ⟨?_, ?_, ?_⟩
    · rw [List.flatMap_cons, List.nodup_append]
      refine ⟨hnodup, hnodup', ?_⟩
      rintro a ha b hb rfl
      obtain ⟨d, hd, hmem⟩ := List.mem_flatMap.mp hb
      exact (hafter a (hfresh' d hd a hmem)).2 ha
    · intro d hd a ha
      rcases List.mem_cons.mp hd with rfl | hd
      · exact hfresh a ha
      · exact (hafter a (hfresh' d hd a ha)).1
    · intro d hd
      rcases List.mem_cons.mp hd with rfl | hd
      · refine ⟨fieldCollisions_sound hfields, ?_⟩
        rw [← hfirst] at huniform
        exact itemFindings_sound huniform
      · exact heach d hd

/-! ### Collections and their columns -/

/-- A collection has columns, and they are columns of data whose names are its own name followed by
a number. -/
structure IsCollection (s : Schema) (c : Collection) : Prop where
  items_ne_nil : c.items ≠ []
  member : ∀ item ∈ c.items, ∃ f ∈ s.dataFields, f.column = item.column ∧ f.name = item.name ∧
    ∃ digits, numericSuffix? f.name = some (c.name, digits)

theorem isCollection_of_collections {collections : List Collection}
    (h : s.collections = .ok collections) : ∀ c ∈ collections, IsCollection s c := by
  have hgrouping := isGrouping_of_collections h
  intro c hc
  have hentries := hgrouping.entries c hc
  refine ⟨?_, ?_⟩
  · obtain ⟨first, hfirst, -⟩ := hgrouping.typed c hc
    intro hnil
    rw [hnil, List.forall₂_nil_right_iff] at hentries
    simp [hentries] at hfirst
  · intro item hitem
    obtain ⟨f, hf, hentry⟩ := exists_of_mem_right hentries hitem
    obtain ⟨digits, n, hends, -⟩ := hentry.key
    exact ⟨f, List.mem_of_mem_filter hf, hentry.column.symm, hentry.name.symm, digits,
      numericSuffix?_eq_some.mpr hends⟩

/-! ### The passes together -/

/-- A schema in which nothing is wrong. -/
structure CleanSchema (s : Schema) (collections : List Collection) : Prop where
  collected : s.collections = .ok collections
  valid : ∀ f ∈ s.dataFields,
    isColumnName f.name = true ∧ isReserved (snakeCase f.name) = false
  nodup : (s.fields.map fun f => snakeCase f.name).Nodup
  accessors_nodup : (collections.flatMap accessors).Nodup
  apart : ∀ c ∈ collections, ∀ f ∈ s.fields, snakeCase f.name ∉ accessors c
  uniform : ∀ c ∈ collections, ∀ item ∈ c.items, ∀ f,
    s.fields.find? (·.column == item.column) = some f → f.type = c.type ∧ f.keyword = c.keyword

theorem exists_clean (h : errorFindings s.lint = []) :
    ∃ collections, CleanSchema s collections := by
  rw [errorFindings_eq_nil, Schema.lint] at h
  cases hcollections : s.collections with
  | error fault =>
    simp only [hcollections] at h
    obtain ⟨-, hkey⟩ := isClean_append.mp (isClean_byColumn h)
    have herror : (Lint.keyFinding s fault).cause.severity = .error := by
      unfold Lint.keyFinding
      split <;> rfl
    exact absurd hkey (not_isClean_cons herror)
  | ok collections =>
    simp only [hcollections] at h
    obtain ⟨hnames, hfound⟩ := isClean_append.mp (isClean_byColumn h)
    obtain ⟨hvalid, hnodup, -⟩ := nameFindings_sound hnames
    have hitems : ∀ c ∈ collections, c.items ≠ [] := fun c hc =>
      (isCollection_of_collections hcollections c hc).items_ne_nil
    obtain ⟨haccessors, -, heach⟩ := collectionFindings_sound hitems hfound
    refine ⟨collections, hcollections, ?_, hnodup, haccessors, fun c hc => (heach c hc).1,
      fun c hc => (heach c hc).2⟩
    intro f hf
    obtain ⟨hmem, hdata⟩ := List.mem_filter.mp hf
    exact hvalid f hmem (by simpa using hdata)

end TypedTables.Proofs
