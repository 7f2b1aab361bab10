import TypedTables.Proofs.Naming
import TypedTables.Proofs.RowType.Block
import TypedTables.Proofs.Schema.Lint
import TypedTables.Proofs.Table.Fields

/-!
# Names of a row type

If nothing is wrong with the columns of a table, then its row type can be emitted: what a row stores
has names that differ from each other, its methods have, and each of these names can be written.
-/

namespace TypedTables.Proofs

open Lint (accessors rowTypeItems)
open Naming (snakeCase)

variable {t : DataTable} {s : Schema} {collections : List Collection}

lemma not_mem_accessors {name : String} (h : name ∈ rowTypeItems) (c : Collection) :
    name ∉ accessors c := by
  have hends : ∀ item ∈ rowTypeItems, ¬"_count".toList <:+ item.toList ∧
      ¬"get_".toList <+: item.toList ∧ ¬"_items".toList <:+ item.toList := by decide +kernel
  obtain ⟨hcount, hget, hitems⟩ := hends name h
  intro hmem
  simp only [accessors, List.mem_cons, List.not_mem_nil, or_false] at hmem
  rcases hmem with rfl | rfl | rfl | rfl
  · exact hcount (by rw [String.toList_append]; exact List.suffix_append _ _)
  · exact hget (by rw [String.toList_append]; exact List.prefix_append _ _)
  · apply hget
    rw [String.toList_append, String.toList_append, List.append_assoc]
    exact List.prefix_append _ _
  · exact hitems (by rw [String.toList_append]; exact List.suffix_append _ _)

/-- In a clean schema, names that every row type has, the emitted names of the data, and accessors
of the collections all differ. -/
lemma nodup_words (hclean : CleanSchema s collections) {fixed : List String}
    {pick : Collection → List String} (hfixed : fixed ⊆ rowTypeItems) (hnodup : fixed.Nodup)
    (hpick : ∀ c, (pick c).Sublist (accessors c)) :
    (fixed ++ (s.dataFields.map (fun f => snakeCase f.name) ++ collections.flatMap pick)).Nodup := by
  have hdata : (s.dataFields.map fun f => snakeCase f.name).Nodup :=
    hclean.nodup.sublist (List.filter_sublist.map _)
  have haccessors : (collections.flatMap pick).Nodup :=
    hclean.accessors_nodup.sublist (.flatMap_right collections fun c _ => hpick c)
  have hmem : ∀ {a}, a ∈ collections.flatMap pick → ∃ c ∈ collections, a ∈ accessors c := by
    intro a ha
    obtain ⟨c, hc, hpicked⟩ := List.mem_flatMap.mp ha
    exact ⟨c, hc, (hpick c).subset hpicked⟩
  rw [List.nodup_append, List.nodup_append]
  refine ⟨hnodup, ⟨hdata, haccessors, ?_⟩, ?_⟩
  · rintro a ha b hb rfl
    obtain ⟨f, hf, rfl⟩ := List.mem_map.mp ha
    obtain ⟨c, hc, haccessor⟩ := hmem hb
    exact hclean.apart c hc f (List.mem_of_mem_filter hf) haccessor
  · rintro a ha b hb rfl
    rcases List.mem_append.mp hb with hb | hb
    · obtain ⟨f, hf, rfl⟩ := List.mem_map.mp hb
      have hreserved := (hclean.valid f hf).2
      rw [Lint.isReserved, List.contains_iff_mem.mpr (hfixed ha)] at hreserved
      simp at hreserved
    · obtain ⟨c, -, haccessor⟩ := hmem hb
      exact not_mem_accessors (hfixed ha) c haccessor

/-! ### Each name by itself -/

lemma isEmittable_rowTypeItem {name : String} (h : name ∈ rowTypeItems) : IsEmittable name := by
  have hall : ∀ item ∈ rowTypeItems, isSnakeWord (bareName item) = true ∧
      bareName item ∉ Naming.inexpressible ∧ Naming.isKeyword (bareName item) = false := by
    decide +kernel
  obtain ⟨hword, hexpressible, hkeyword⟩ := hall name h
  exact ⟨hword, hexpressible, by simp [hkeyword]⟩

lemma isEmittable_ident (hclean : CleanSchema s collections) {f : Field} (hf : f ∈ s.dataFields) :
    IsEmittable f.ident := by
  obtain ⟨hname, hreserved⟩ := hclean.valid f hf
  apply isEmittable_identifier (isSnakeWord_snakeCase hname)
  intro hmem
  rw [Lint.isReserved, List.contains_iff_mem.mpr hmem, Bool.or_true] at hreserved
  simp at hreserved

lemma isSnakeWord_stem (hclean : CleanSchema s collections) {c : Collection}
    (hc : c ∈ collections) : isSnakeWord (snakeCase c.name) = true := by
  have hcollection := isCollection_of_collections hclean.collected c hc
  obtain ⟨item, rest, hitems⟩ := List.exists_cons_of_ne_nil hcollection.items_ne_nil
  obtain ⟨f, hf, -, -, digits, hsuffix⟩ :=
    hcollection.member item (by rw [hitems]; exact List.mem_cons_self)
  exact isSnakeWord_snakeCase (isColumnName_stem (hclean.valid f hf).1 hsuffix)

lemma isSnakeWord_accessor {c : Collection} (h : isSnakeWord (snakeCase c.name) = true)
    {name : String} (hname : name ∈ accessors c) :
    isSnakeWord name = true ∧ '_' ∈ name.toList := by
  have hget : isSnakeWord ("get_" ++ snakeCase c.name) = true :=
    isSnakeWord_append (by decide +kernel) (all_isWordChar h)
  simp only [accessors, List.mem_cons, List.not_mem_nil, or_false] at hname
  rcases hname with rfl | rfl | rfl | rfl
  · exact ⟨isSnakeWord_append h (by decide +kernel), by simp [String.toList_append]⟩
  · exact ⟨hget, by simp [String.toList_append]⟩
  · exact ⟨isSnakeWord_append hget (by decide +kernel), by simp [String.toList_append]⟩
  · exact ⟨isSnakeWord_append h (by decide +kernel), by simp [String.toList_append]⟩

lemma isEmittable_accessor (hclean : CleanSchema s collections) {c : Collection}
    (hc : c ∈ collections) {name : String} (hname : name ∈ accessors c) : IsEmittable name := by
  obtain ⟨hword, hunderscore⟩ := isSnakeWord_accessor (isSnakeWord_stem hclean hc) hname
  exact isEmittable_of_underscore hword hunderscore

/-! ### The names of the whole row type -/

lemma map_bareName_idents (hclean : CleanSchema s collections) :
    (s.dataFields.map Field.ident).map bareName = s.dataFields.map fun f => snakeCase f.name := by
  rw [List.map_map]
  apply List.map_congr_left
  intro f hf
  rw [Function.comp_apply, Field.ident]
  exact bareName_identifier (isSnakeWord_snakeCase (hclean.valid f hf).1)

lemma map_bareName_accessors (hclean : CleanSchema s collections)
    {pick : Collection → List String} (hpick : ∀ c, (pick c).Sublist (accessors c)) :
    (collections.flatMap pick).map bareName = collections.flatMap pick := by
  rw [List.map_congr_left, List.map_id]
  intro name hname
  obtain ⟨c, hc, hpicked⟩ := List.mem_flatMap.mp hname
  exact bareName_word
    (isSnakeWord_accessor (isSnakeWord_stem hclean hc) ((hpick c).subset hpicked)).1

lemma map_bareName_fixed {fixed : List String} (hfixed : fixed ⊆ rowTypeItems) :
    fixed.map bareName = fixed := by
  have hall : ∀ item ∈ rowTypeItems, isSnakeWord item = true := by decide +kernel
  rw [List.map_congr_left, List.map_id]
  intro name hname
  exact bareName_word (hall name (hfixed hname))

/-- Names that every row type has, names of the data and accessors of the collections: they differ
even without the escape of keywords, and all can be written. -/
lemma nodup_names (hclean : CleanSchema s collections) (fixed : List String)
    (pick : Collection → List String) (hfixed : fixed ⊆ rowTypeItems) (hnodup : fixed.Nodup)
    (hpick : ∀ c, (pick c).Sublist (accessors c)) :
    (fixed ++ (s.dataFields.map Field.ident ++ collections.flatMap pick)).Nodup ∧
      ∀ name ∈ fixed ++ (s.dataFields.map Field.ident ++ collections.flatMap pick),
        IsEmittable name := by
  constructor
  · apply List.Nodup.of_map bareName
    rw [List.map_append, List.map_append, map_bareName_fixed hfixed, map_bareName_idents hclean,
      map_bareName_accessors hclean hpick]
    exact nodup_words hclean hfixed hnodup hpick
  · intro name hname
    rcases List.mem_append.mp hname with hname | hname
    · exact isEmittable_rowTypeItem (hfixed hname)
    · rcases List.mem_append.mp hname with hname | hname
      · obtain ⟨f, hf, rfl⟩ := List.mem_map.mp hname
        exact isEmittable_ident hclean hf
      · obtain ⟨c, hc, hpicked⟩ := List.mem_flatMap.mp hname
        exact isEmittable_accessor hclean hc ((hpick c).subset hpicked)

variable {grid : Grid} {layout : DataTableLayout} {types : Registry}

/-- A table without errors has a row type that can be emitted, and the columns of each of its
collections have one type. -/
theorem emittable_of_lint (h : DataTable.ofGrid grid layout types = .ok t) (space : String) :
    ∃ s, t.schema = .ok s ∧ (errorFindings s.lint = [] →
      ∃ collections rowType, s.collections = .ok collections ∧
        RowType.ofSchema space s = .ok rowType ∧
        rowType.fieldNames.Nodup ∧ rowType.methodNames.Nodup ∧
        (∀ name ∈ rowType.fieldNames ++ rowType.methodNames, IsEmittable name) ∧
        ∀ c ∈ collections, ∀ item ∈ c.items, ∃ f ∈ s.dataFields, f.column = item.column ∧
          f.name = item.name ∧ f.type = c.type ∧ f.keyword = c.keyword) := by
  have haccepted := accepted_of_ofGrid h
  obtain ⟨s, hs⟩ := exists_schema haccepted
  refine ⟨s, hs, ?_⟩
  intro hlint
  obtain ⟨collections, hclean⟩ := exists_clean hlint
  obtain ⟨key, hkey, -⟩ := exists_key haccepted hs
  obtain ⟨rowType, hrowType, hproperties, hgroups⟩ :=
    ofSchema_eq_ok space hclean.collected hkey
  obtain ⟨hfields, hfieldsEmittable⟩ := nodup_names hclean ["id"]
    (fun c => [snakeCase c.name ++ "_items"]) (by decide) (by decide) (fun c => by simp [accessors])
  obtain ⟨hmethods, hmethodsEmittable⟩ := nodup_names hclean rowTypeItems
    (fun c => [snakeCase c.name ++ "_count", "get_" ++ snakeCase c.name,
      "get_" ++ snakeCase c.name ++ "_at"]) (List.Subset.refl _) (by decide)
    (fun c => List.take_sublist 3 (accessors c))
  have hfieldNames : rowType.fieldNames = ["id"] ++ (s.dataFields.map Field.ident ++
      collections.flatMap fun c => [snakeCase c.name ++ "_items"]) := by
    rw [RowType.fieldNames, hproperties, hgroups, List.map_map,
      List.map_eq_flatMap (l := collections)]
    rfl
  have hmethodNames : rowType.methodNames = rowTypeItems ++ (s.dataFields.map Field.ident ++
      collections.flatMap fun c => [snakeCase c.name ++ "_count", "get_" ++ snakeCase c.name,
        "get_" ++ snakeCase c.name ++ "_at"]) := by
    rw [RowType.methodNames, hproperties, hgroups, List.flatMap_map]
    rfl
  rw [← hfieldNames] at hfields hfieldsEmittable
  rw [← hmethodNames] at hmethods hmethodsEmittable
  refine ⟨collections, rowType, hclean.collected, hrowType, hfields, hmethods, ?_, ?_⟩
  · intro name hname
    rcases List.mem_append.mp hname with hname | hname
    · exact hfieldsEmittable name hname
    · exact hmethodsEmittable name hname
  · intro c hc item hitem
    obtain ⟨f, hf, hcolumn, hname, -⟩ :=
      (isCollection_of_collections hclean.collected c hc).member item hitem
    have hmem := List.mem_of_mem_filter hf
    obtain ⟨found, hfound⟩ : ∃ found, s.fields.find? (·.column == item.column) = some found := by
      rw [← Option.isSome_iff_exists, List.find?_isSome]
      exact ⟨f, hmem, by simp [hcolumn]⟩
    have hsame : found.column = f.column := by
      rw [hcolumn]
      simpa using List.find?_some hfound
    obtain rfl := field_eq_of_column_eq hs (List.mem_of_find?_eq_some hfound) hmem hsame
    exact ⟨found, hf, hcolumn, hname, hclean.uniform c hc item hitem found hfound⟩

/-- A table with a collection of two rewards and with a column whose name is a keyword. -/
def quests : String :=
  "\tQuests\t\t\t\t\n\tId\tType\tReward1\tReward2\tHPMax\n\tint\tbyte\tint\tint\tfloat\n" ++
    "\t\t\t\t\t\n\t1\t0\t5\t6\t2.5\n"

theorem emittable_of_lint_quests : ∃ grid t s collections rowType,
    DataTable.ofGrid grid {} Registry.standard = .ok t ∧ t.schema = .ok s ∧
      errorFindings s.lint = [] ∧ s.collections = .ok collections ∧
      RowType.ofSchema "tablegen::runtime" s = .ok rowType ∧
      rowType.fieldNames = ["id", "r#type", "reward1", "reward2", "hp_max", "reward_items"] ∧
      rowType.fieldNames.Nodup ∧ rowType.methodNames.Nodup ∧
      (∀ name ∈ rowType.fieldNames ++ rowType.methodNames, IsEmittable name) ∧
      ∀ c ∈ collections, ∀ item ∈ c.items, ∃ f ∈ s.dataFields, f.column = item.column ∧
        f.name = item.name ∧ f.type = c.type ∧ f.keyword = c.keyword := by
  have hfound : ((Grid.ofSource quests ['"']).bind fun grid =>
      (DataTable.ofGrid grid {} Registry.standard).bind fun t => t.schema.bind fun s =>
        (RowType.ofSchema "tablegen::runtime" s).map fun rowType =>
          (errorFindings s.lint, rowType.fieldNames)).toOption =
      some ([], ["id", "r#type", "reward1", "reward2", "hp_max", "reward_items"]) := by
    decide +kernel
  obtain ⟨grid, -, hfound⟩ := bind_eq_ok.mp (toOption_eq_some.mp hfound)
  obtain ⟨t, ht, hfound⟩ := bind_eq_ok.mp hfound
  obtain ⟨s, hs, hfound⟩ := bind_eq_ok.mp hfound
  obtain ⟨rowType, hrowType, hfound⟩ := map_eq_ok.mp hfound
  obtain ⟨hlint, hnames⟩ := Prod.mk.inj hfound
  obtain ⟨s', hs', hsound⟩ := emittable_of_lint ht "tablegen::runtime"
  obtain rfl : s = s' := Except.ok.inj (hs.symm.trans hs')
  obtain ⟨collections, rowType', hcollections, hrowType', hrest⟩ := hsound hlint
  obtain rfl : rowType = rowType' := Except.ok.inj (hrowType.symm.trans hrowType')
  exact ⟨grid, t, s, collections, rowType, ht, hs, hlint, hcollections, hrowType, hnames, hrest⟩

end TypedTables.Proofs
