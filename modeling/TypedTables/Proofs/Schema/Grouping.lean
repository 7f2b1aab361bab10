import TypedTables.Proofs.RowType.Block
import TypedTables.Proofs.Schema.Collection

/-!
# Columns and their collections

The collections of a schema are its numbered columns put together by their stems: one collection for
each stem, in the order of the first columns, and in it the columns of the stem in their own order.
Emitted code fills each collection with these columns.
-/

namespace TypedTables

/-- Whether the name is this stem and a number behind it. -/
def Field.HasStem (f : Field) (stem : String) : Prop :=
  ∃ digits, Proofs.EndsInNumber f.name stem digits

/-- The entry of a column in the collection of this stem. -/
structure Field.IsEntry (f : Field) (stem : String) (item : CollectionItem) : Prop where
  key : ∃ digits n, Proofs.EndsInNumber f.name stem digits ∧
    Number.value? digits.toList = some n ∧ item.key.toInt = n
  column : item.column = f.column
  name : item.name = f.name

namespace Proofs

variable {s : Schema} {f : Field} {fields : List Field} {collections found : List Collection}
variable {stem : String} {key : Int32}

lemma hasStem_iff :
    f.HasStem stem ↔ (Naming.numericSuffix? f.name).map Prod.fst = some stem := by
  simp [Field.HasStem, ← numericSuffix?_eq_some]

instance (f : Field) (stem : String) : Decidable (f.HasStem stem) :=
  decidable_of_iff _ hasStem_iff.symm

lemma hasStem_unique {stem' : String} (h : f.HasStem stem) (h' : f.HasStem stem') :
    stem' = stem :=
  Option.some.inj ((hasStem_iff.mp h').symm.trans (hasStem_iff.mp h))

lemma hasStem_of_isEntry {item : CollectionItem} (h : f.IsEntry stem item) : f.HasStem stem := by
  obtain ⟨digits, n, hends, -⟩ := h.key
  exact ⟨digits, hends⟩

/-- Whether the collections are those of the numbered columns among these fields. -/
structure IsGrouping (fields : List Field) (collections : List Collection) : Prop where
  stems : ∀ stem, (∃ c ∈ collections, c.name = stem) ↔ ∃ f ∈ fields, f.HasStem stem
  ordered : collections.Pairwise fun c d =>
    fields.findIdx (·.HasStem c.name) < fields.findIdx (·.HasStem d.name)
  entries : ∀ c ∈ collections, List.Forall₂ (fun f item => f.IsEntry c.name item)
    (fields.filter (·.HasStem c.name)) c.items
  typed : ∀ c ∈ collections, ∃ f ∈ (fields.filter (·.HasStem c.name)).head?,
    c.type = f.type ∧ c.keyword = f.keyword

lemma IsGrouping.nodup (h : IsGrouping fields collections) :
    (collections.map Collection.name).Nodup := by
  refine List.pairwise_map.mpr (h.ordered.imp ?_)
  intro c d hlt hname
  rw [hname] at hlt
  exact lt_irrefl _ hlt

/-! ### One more column -/

/-- The collection with this entry, if it is the one of the stem. -/
def withEntry (stem : String) (item : CollectionItem) (c : Collection) : Collection :=
  if c.name = stem then { c with items := c.items ++ [item] } else c

lemma withEntry_of_eq {item : CollectionItem} {c : Collection} (h : c.name = stem) :
    withEntry stem item c = { c with items := c.items ++ [item] } :=
  if_pos h

lemma withEntry_of_ne {item : CollectionItem} {c : Collection} (h : c.name ≠ stem) :
    withEntry stem item c = c :=
  if_neg h

@[simp] lemma name_withEntry (stem : String) (item : CollectionItem) (c : Collection) :
    (withEntry stem item c).name = c.name := by
  by_cases h : c.name = stem
  · rw [withEntry_of_eq h]
  · rw [withEntry_of_ne h]

lemma addToCollection_of_new (h : ∀ c ∈ collections, c.name ≠ stem) :
    addToCollection stem f key collections =
      collections ++ [⟨stem, f.type, f.keyword, [⟨key, f.column, f.name⟩]⟩] := by
  induction collections with
  | nil => rfl
  | cons c rest ih =>
    have hrest := ih fun d hd => h d (List.mem_cons_of_mem c hd)
    rw [addToCollection, if_neg (h c List.mem_cons_self), hrest, List.cons_append]

lemma addToCollection_of_known (hnodup : (collections.map Collection.name).Nodup)
    (h : ∃ c ∈ collections, c.name = stem) : addToCollection stem f key collections =
      collections.map (withEntry stem ⟨key, f.column, f.name⟩) := by
  induction collections with
  | nil =>
    obtain ⟨c, hc, -⟩ := h
    cases hc
  | cons c rest ih =>
    rw [List.map_cons, List.nodup_cons] at hnodup
    obtain ⟨hfresh, hnodup⟩ := hnodup
    rw [addToCollection, List.map_cons]
    by_cases hname : c.name = stem
    · have hothers : ∀ d ∈ rest, withEntry stem ⟨key, f.column, f.name⟩ d = d := by
        intro d hd
        apply withEntry_of_ne
        rintro rfl
        exact hfresh (List.mem_map.mpr ⟨d, hd, hname.symm⟩)
      rw [if_pos hname, withEntry_of_eq hname, List.map_congr_left hothers, List.map_id']
    · have hrest : ∃ d ∈ rest, d.name = stem := by
        obtain ⟨d, hd, hdname⟩ := h
        rcases List.mem_cons.mp hd with rfl | hd
        · exact absurd hdname hname
        · exact ⟨d, hd, hdname⟩
      rw [if_neg hname, withEntry_of_ne hname, ih hnodup hrest]

lemma findIdx_append_of_exists {p : Field → Bool} (h : ∃ f ∈ fields, p f = true)
    (more : List Field) : (fields ++ more).findIdx p = fields.findIdx p := by
  rw [List.findIdx_append, if_pos (List.findIdx_lt_length.mpr h)]

lemma filter_append_of_hasStem (hf : f.HasStem stem) : (fields ++ [f]).filter (·.HasStem stem) =
    fields.filter (·.HasStem stem) ++ [f] := by
  rw [List.filter_append, List.filter_cons_of_pos (by simpa using hf), List.filter_nil]

lemma filter_append_of_not_hasStem (hf : ¬f.HasStem stem) :
    (fields ++ [f]).filter (·.HasStem stem) = fields.filter (·.HasStem stem) := by
  rw [List.filter_append, List.filter_cons_of_neg (by simpa using hf), List.filter_nil,
    List.append_nil]

section Step

variable (h : IsGrouping fields collections)

include h

lemma IsGrouping.exists_column {c : Collection} (hc : c ∈ collections) :
    ∃ f ∈ fields, decide (f.HasStem c.name) = true := by
  simpa using (h.stems c.name).mp ⟨c, hc, rfl⟩

lemma IsGrouping.findIdx_append {c : Collection} (hc : c ∈ collections) (f : Field) :
    (fields ++ [f]).findIdx (·.HasStem c.name) = fields.findIdx (·.HasStem c.name) :=
  findIdx_append_of_exists (h.exists_column hc) [f]

lemma IsGrouping.ordered_append (f : Field) : collections.Pairwise fun c d =>
    (fields ++ [f]).findIdx (·.HasStem c.name) < (fields ++ [f]).findIdx (·.HasStem d.name) := by
  refine h.ordered.imp_of_mem ?_
  intro c d hc hd hlt
  rwa [h.findIdx_append hc, h.findIdx_append hd]

/-- A column without a number is in no collection. -/
lemma IsGrouping.skip (hf : ∀ stem, ¬f.HasStem stem) : IsGrouping (fields ++ [f]) collections := by
  refine ⟨?_, h.ordered_append f, ?_, ?_⟩
  · intro stem
    simp [h.stems stem, hf stem]
  · intro c hc
    rw [filter_append_of_not_hasStem (hf c.name)]
    exact h.entries c hc
  · intro c hc
    rw [filter_append_of_not_hasStem (hf c.name)]
    exact h.typed c hc

variable (hentry : f.IsEntry stem ⟨key, f.column, f.name⟩)

include hentry

/-- A column with a new stem has a collection of its own, the last one. -/
lemma IsGrouping.start (hnew : ∀ c ∈ collections, c.name ≠ stem) : IsGrouping (fields ++ [f])
    (collections ++ [⟨stem, f.type, f.keyword, [⟨key, f.column, f.name⟩]⟩]) := by
  have hf := hasStem_of_isEntry hentry
  have hnone : ∀ g ∈ fields, ¬g.HasStem stem := by
    intro g hg hstem
    obtain ⟨c, hc, hname⟩ := (h.stems stem).mpr ⟨g, hg, hstem⟩
    exact hnew c hc hname
  have hothers : ∀ c ∈ collections, ¬f.HasStem c.name := fun c hc hstem =>
    hnew c hc (hasStem_unique hf hstem)
  have hown : (fields ++ [f]).filter (·.HasStem stem) = [f] := by
    rw [filter_append_of_hasStem hf, List.filter_eq_nil_iff.mpr (by simpa using hnone),
      List.nil_append]
  refine ⟨?_, ?_, ?_, ?_⟩
  · intro other
    have hother : f.HasStem other ↔ stem = other :=
      ⟨fun hstem => (hasStem_unique hf hstem).symm, fun heq => heq ▸ hf⟩
    have hknown := h.stems other
    simp only [List.mem_append, List.mem_singleton, or_and_right, exists_or, exists_eq_left, hknown,
      hother]
  · refine List.pairwise_append.mpr ⟨h.ordered_append f, List.pairwise_singleton _ _, ?_⟩
    intro c hc d hd
    obtain rfl := List.mem_singleton.mp hd
    have hbefore := List.findIdx_lt_length.mpr (h.exists_column hc)
    have hlast : ¬fields.findIdx (·.HasStem stem) < fields.length := by
      rw [List.findIdx_lt_length]
      simpa using hnone
    rw [h.findIdx_append hc, List.findIdx_append, if_neg hlast]
    omega
  · intro c hc
    rcases List.mem_append.mp hc with hc | hc
    · rw [filter_append_of_not_hasStem (hothers c hc)]
      exact h.entries c hc
    · obtain rfl := List.mem_singleton.mp hc
      rw [hown]
      exact .cons hentry .nil
  · intro c hc
    rcases List.mem_append.mp hc with hc | hc
    · rw [filter_append_of_not_hasStem (hothers c hc)]
      exact h.typed c hc
    · obtain rfl := List.mem_singleton.mp hc
      rw [hown]
      exact ⟨f, rfl, rfl, rfl⟩

/-- A column with a known stem is the last one of its collection. -/
lemma IsGrouping.extend (hknown : ∃ c ∈ collections, c.name = stem) : IsGrouping (fields ++ [f])
    (collections.map (withEntry stem ⟨key, f.column, f.name⟩)) := by
  have hf := hasStem_of_isEntry hentry
  have hother : ∀ {other}, f.HasStem other → other = stem := fun hstem => hasStem_unique hf hstem
  refine ⟨?_, ?_, ?_, ?_⟩
  · intro other
    have hmembers := h.stems other
    simp only [List.mem_map, List.mem_append, List.mem_singleton, exists_exists_and_eq_and,
      name_withEntry, hmembers, or_and_right, exists_or, exists_eq_left]
    refine ⟨.inl, fun hor => hor.elim id fun hstem => ?_⟩
    rw [← h.stems, hother hstem]
    exact hknown
  · rw [List.pairwise_map]
    simpa only [name_withEntry] using h.ordered_append f
  · intro d hd
    obtain ⟨c, hc, rfl⟩ := List.mem_map.mp hd
    have hentries := h.entries c hc
    rw [name_withEntry]
    by_cases hname : c.name = stem
    · rw [withEntry_of_eq hname, hname, filter_append_of_hasStem hf]
      rw [hname] at hentries
      exact List.rel_append hentries (.cons hentry .nil)
    · rwa [withEntry_of_ne hname, filter_append_of_not_hasStem fun hstem => hname (hother hstem)]
  · intro d hd
    obtain ⟨c, hc, rfl⟩ := List.mem_map.mp hd
    obtain ⟨first, hfirst, htyped⟩ := h.typed c hc
    rw [name_withEntry]
    by_cases hname : c.name = stem
    · rw [withEntry_of_eq hname, hname, filter_append_of_hasStem hf]
      rw [hname] at hfirst
      exact ⟨first, by rw [List.head?_append, Option.mem_def.mp hfirst]; rfl, htyped⟩
    · rw [withEntry_of_ne hname, filter_append_of_not_hasStem fun hstem => hname (hother hstem)]
      exact ⟨first, hfirst, htyped⟩

end Step

/-! ### All columns -/

lemma collectField_eq_ok (h : collectField collections f = .ok found) :
    (∀ stem, ¬f.HasStem stem) ∧ found = collections ∨
      ∃ stem key, f.IsEntry stem ⟨key, f.column, f.name⟩ ∧
        found = addToCollection stem f key collections := by
  unfold collectField at h
  cases hsuffix : Naming.numericSuffix? f.name with
  | none =>
    simp only [hsuffix] at h
    exact .inl ⟨fun stem hstem => by simp [hasStem_iff, hsuffix] at hstem, (Except.ok.inj h).symm⟩
  | some suffix =>
    obtain ⟨stem, digits⟩ := suffix
    have hends := numericSuffix?_eq_some.mp hsuffix
    simp only [hsuffix] at h
    cases hkey : collectionKey? digits with
    | none =>
      simp only [hkey] at h
      cases h
    | some key =>
      simp only [hkey] at h
      obtain ⟨n, hn, hvalue⟩ := toInt_of_collectionKey? hends hkey
      exact .inr ⟨stem, key, ⟨⟨digits, n, hends, hn, hvalue⟩, rfl, rfl⟩, (Except.ok.inj h).symm⟩

lemma IsGrouping.collectField (h : IsGrouping fields collections)
    (hfound : collectField collections f = .ok found) : IsGrouping (fields ++ [f]) found := by
  rcases collectField_eq_ok hfound with ⟨hf, rfl⟩ | ⟨stem, key, hentry, rfl⟩
  · exact h.skip hf
  · by_cases hknown : ∃ c ∈ collections, c.name = stem
    · rw [addToCollection_of_known h.nodup hknown]
      exact h.extend hentry hknown
    · have hnew : ∀ c ∈ collections, c.name ≠ stem := fun c hc hname => hknown ⟨c, hc, hname⟩
      rw [addToCollection_of_new hnew]
      exact h.start hentry hnew

lemma IsGrouping.foldlM {rest : List Field} (h : IsGrouping fields collections)
    (hfound : rest.foldlM TypedTables.collectField collections = .ok found) :
    IsGrouping (fields ++ rest) found := by
  induction rest generalizing fields collections with
  | nil =>
    obtain rfl := pure_eq_ok.mp hfound
    rwa [List.append_nil]
  | cons f rest ih =>
    rw [List.foldlM_cons, bind_eq_ok] at hfound
    obtain ⟨next, hnext, hfound⟩ := hfound
    have hall := ih (h.collectField hnext) hfound
    rwa [List.append_assoc, List.singleton_append] at hall

theorem isGrouping_of_collections (h : s.collections = .ok collections) :
    IsGrouping s.dataFields collections := by
  have hnone : IsGrouping [] [] := ⟨by simp, .nil, by simp, by simp⟩
  have hall := hnone.foldlM h
  rwa [List.nil_append] at hall

/-! ### Entries of the row type -/

lemma find?_column (hnodup : (fields.map Field.column).Nodup) (hf : f ∈ fields) :
    fields.find? (·.column == f.column) = some f := by
  obtain ⟨found, hfound⟩ : ∃ found, fields.find? (·.column == f.column) = some found := by
    rw [← Option.isSome_iff_exists, List.find?_isSome]
    exact ⟨f, hf, by simp⟩
  have hcolumn : found.column = f.column := by simpa using List.find?_some hfound
  rw [hfound, List.inj_on_of_nodup_map hnodup (List.mem_of_find?_eq_some hfound) hf hcolumn]

/-- If no two fields share a column, then every entry of a collection gives the field it was made of. -/
lemma entries_groupOf (hnodup : (s.fields.map Field.column).Nodup) {c : Collection}
    {members : List Field} (hmembers : members ⊆ s.fields)
    (h : List.Forall₂ (fun f item => f.IsEntry c.name item) members c.items) :
    (RowType.groupOf s c).entries =
      List.zipWith (fun f item => (item.key, f.ident)) members c.items := by
  change c.items.filterMap _ = _
  generalize c.items = items at h
  induction h with
  | nil => rfl
  | @cons f item members items hentry _ ih =>
    obtain ⟨hf, hmembers⟩ := List.cons_subset.mp hmembers
    have hfound := find?_column hnodup hf
    rw [← hentry.column] at hfound
    rw [List.filterMap_cons_some (by rw [hfound]; rfl), List.zipWith_cons_cons, ih hmembers]

/-! ### Entries in emitted code -/

/-- The entry of a column as emitted code writes it: its key in decimal digits, and the property,
which is cloned unless values of the collection are copied. -/
def pairText (c : Collection) (f : Field) (item : CollectionItem) : String :=
  "(" ++ toString item.key ++ ", self." ++ f.ident ++
    (if Handing.of c.type c.keyword = .copy then "" else ".clone()") ++ ")"

/-- The line of emitted code that fills a collection with the entries of these columns. -/
def fillText (c : Collection) (members : List Field) : String :=
  "        self." ++ Naming.snakeCase c.name ++ "_items = vec![" ++
    ", ".intercalate (List.zipWith (pairText c) members c.items) ++ "];"

/-- Whether a block of emitted code fills the collections, each with all the columns of its stem, in
order. Without collections there is no code; otherwise a method with one line for each stands before
all else. -/
structure FillsCollections (fields : List Field) (collections : List Collection) (block : String) :
    Prop where
  empty : collections = [] → block = ""
  lines : collections ≠ [] → ∃ accessors, block = "\n" ++
    "\n".intercalate ("    fn generate_property_array(&mut self) \x7b" ::
      collections.map (fun c => fillText c (fields.filter (·.HasStem c.name))) ++ ["    \x7d"]) ++
    accessors

lemma fillLine_groupOf {c : Collection} {members : List Field}
    (h : (RowType.groupOf s c).entries =
      List.zipWith (fun f item => (item.key, f.ident)) members c.items) :
    RowType.fillLine (RowType.groupOf s c) = fillText c members := by
  have hname : "        self." ++ (RowType.groupOf s c).itemsName ++ " = vec![" =
      "        self." ++ Naming.snakeCase c.name ++ "_items = vec![" := by
    simp [← String.toList_inj, RowGroup.itemsName, RowType.groupOf]
  rw [fillLine_eq, h, List.map_zipWith, hname]
  rfl

lemma fillsCollections_of_entries {t : RowType} (hgroups : t.groups = collections.map (RowType.groupOf s))
    (h : ∀ c ∈ collections, (RowType.groupOf s c).entries =
      List.zipWith (fun f item => (item.key, f.ident)) (fields.filter (·.HasStem c.name)) c.items) :
    FillsCollections fields collections t.collectionsBlock := by
  constructor
  · rintro rfl
    unfold RowType.collectionsBlock
    rw [hgroups]
    rfl
  · intro hne
    have hlines : t.groups.map RowType.fillLine =
        collections.map fun c => fillText c (fields.filter (·.HasStem c.name)) := by
      rw [hgroups, List.map_map]
      exact List.map_congr_left fun c hc => fillLine_groupOf (h c hc)
    rw [← hlines]
    exact exists_collectionsBlock (by simpa [hgroups] using hne)

/-- The columns of a schema can be collected unless the number at the end of a data column's name is
no key. Then each numbered column is in the collection of its stem and in no other, the row type
fills each collection with the fields of these columns under their keys, and so does the code that is
emitted for it. -/
theorem collections_partition (s : Schema) :
    ((∃ fault, s.collections = .error fault) ↔ ∃ f ∈ s.dataFields, f.HasUnfitKey) ∧
    ∀ collections, s.collections = .ok collections →
      IsGrouping s.dataFields collections ∧ (collections.map Collection.name).Nodup ∧
      (∀ space t, RowType.ofSchema space s = .ok t →
        t.groups = collections.map (RowType.groupOf s)) ∧
      ((s.fields.map Field.column).Nodup →
        (∀ c ∈ collections, (RowType.groupOf s c).entries = List.zipWith
          (fun f item => (item.key, f.ident)) (s.dataFields.filter (·.HasStem c.name)) c.items) ∧
        ∀ t : RowType, t.groups = collections.map (RowType.groupOf s) →
          FillsCollections s.dataFields collections t.collectionsBlock) := by
  refine ⟨exists_collections_eq_error_iff, fun collections h => ?_⟩
  have hgrouping := isGrouping_of_collections h
  refine ⟨hgrouping, hgrouping.nodup, fun space t ht => groups_ofSchema ht h, fun hnodup => ?_⟩
  have hentries : ∀ c ∈ collections, (RowType.groupOf s c).entries = List.zipWith
      (fun f item => (item.key, f.ident)) (s.dataFields.filter (·.HasStem c.name)) c.items := by
    intro c hc
    have hmembers : s.dataFields.filter (·.HasStem c.name) ⊆ s.fields := by
      intro f hf
      exact List.mem_of_mem_filter (List.mem_of_mem_filter hf)
    exact entries_groupOf hnodup hmembers (hgrouping.entries c hc)
  exact ⟨hentries, fun t hgroups => fillsCollections_of_entries hgroups hentries⟩

/-- Rewards under the key 1 twice, with and without a zero in front, a stem with a digit in it, and a
name of digits only. -/
def numberedSchema : Schema where
  columnCount := 7
  fields := ["Id", "Reward1", "Bonus2", "Reward01", "A1B2", "77", "Name"].zipIdx.map fun (name, i) =>
    ⟨i, name, if i = 0 then .id else .data, .builtin .int32, "i32", ""⟩

theorem collections_partition_numbered : ∃ collections,
    numberedSchema.collections = .ok collections ∧
    collections.map (fun c => (c.name, c.items.map fun item => (item.key, item.column))) =
      [("Reward", [(1, 1), (1, 3)]), ("Bonus", [(2, 2)]), ("A1B", [(2, 4)])] ∧
    IsGrouping numberedSchema.dataFields collections ∧ (collections.map Collection.name).Nodup ∧
    (numberedSchema.fields.map Field.column).Nodup ∧ (∀ c ∈ collections,
      (RowType.groupOf numberedSchema c).entries = List.zipWith (fun f item => (item.key, f.ident))
        (numberedSchema.dataFields.filter (·.HasStem c.name)) c.items) ∧
    ∃ t, RowType.ofSchema "types" numberedSchema = .ok t ∧
      FillsCollections numberedSchema.dataFields collections t.collectionsBlock := by
  have hfound : numberedSchema.collections.toOption.map (fun collections =>
      collections.map fun c => (c.name, c.items.map fun item => (item.key, item.column))) =
      some [("Reward", [(1, 1), (1, 3)]), ("Bonus", [(2, 2)]), ("A1B", [(2, 4)])] := by
    decide +kernel
  obtain ⟨collections, hcollections, hnames⟩ := Option.map_eq_some_iff.mp hfound
  have hok := toOption_eq_some.mp hcollections
  have hcolumns : (numberedSchema.fields.map Field.column).Nodup := by decide
  obtain ⟨-, hpartition⟩ := collections_partition numberedSchema
  obtain ⟨hgrouping, hnodup, hgroups, hfilled⟩ := hpartition collections hok
  obtain ⟨hentries, hblock⟩ := hfilled hcolumns
  have hkey : numberedSchema.idField? = some ⟨0, "Id", .id, .builtin .int32, "i32", ""⟩ := rfl
  obtain ⟨t, ht, -⟩ := ofSchema_eq_ok "types" hok hkey
  exact ⟨collections, hok, hnames, hgrouping, hnodup, hcolumns, hentries, t, ht,
    hblock t (hgroups "types" t ht)⟩

end Proofs

end TypedTables
