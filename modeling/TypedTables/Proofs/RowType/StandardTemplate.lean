import TypedTables.Proofs.Row.Hero
import TypedTables.Proofs.RowType.Insertion
import TypedTables.Proofs.Table.Sound

/-!
# The standard template

The placeholders of the standard template stand apart, so emitted code is this template with each of
them replaced. Main statement: a value stands in the code as it is unless it holds a placeholder
whose turn is still to come; such a placeholder is replaced in the value, too.
-/

namespace TypedTables

open Template (Hole Slot Insertion)

/-- The placeholders in the order in which they are replaced, with what is put in their place. -/
def DataTable.slots (t : DataTable) (tableName : String) (options : EmitOptions)
    (timestamp : String) : Except TableError (List Slot) := do
  let schema ← t.schema
  let rowType ← RowType.ofSchema options.space schema
  let idComment ← t.comment t.layout.idColumn
  return [
    ⟨⟨"__DATA_TABLE_CREATE_TIME__", false⟩, timestamp⟩,
    ⟨⟨"__DATA_TABLE_NAME_SPACE__", false⟩, options.space⟩,
    ⟨⟨"__DATA_TABLE_CLASS_NAME__", false⟩, Naming.className options.classStart tableName⟩,
    ⟨⟨"__DATA_TABLE_COMMENT__", false⟩, Text.trim t.summary⟩,
    ⟨⟨"__DATA_TABLE_ID_COMMENT__", false⟩, Text.trim idComment⟩,
    ⟨⟨"__DATA_TABLE_FIELDS__", true⟩, rowType.fieldsBlock⟩,
    ⟨⟨"__DATA_TABLE_PROPERTIES__", true⟩, rowType.propertiesBlock⟩,
    ⟨⟨"__DATA_TABLE_PARSER__", true⟩, rowType.parserBlock options.trimChars⟩,
    ⟨⟨"__DATA_TABLE_PROPERTY_ARRAY__", true⟩, rowType.collectionsBlock⟩]

namespace Proofs

open Template (insertions substitute trimLineEnds)

variable {t : DataTable} {tableName timestamp : String} {options : EmitOptions} {slots : List Slot}

def standardHoles : List Hole := [
  ⟨"__DATA_TABLE_CREATE_TIME__", false⟩,
  ⟨"__DATA_TABLE_NAME_SPACE__", false⟩,
  ⟨"__DATA_TABLE_CLASS_NAME__", false⟩,
  ⟨"__DATA_TABLE_COMMENT__", false⟩,
  ⟨"__DATA_TABLE_ID_COMMENT__", false⟩,
  ⟨"__DATA_TABLE_FIELDS__", true⟩,
  ⟨"__DATA_TABLE_PROPERTIES__", true⟩,
  ⟨"__DATA_TABLE_PARSER__", true⟩,
  ⟨"__DATA_TABLE_PROPERTY_ARRAY__", true⟩]

/-- Code in which slots are filled. -/
structure IsFilled (slots : List Slot) (code : String) : Prop where
  /-- It is the template with all placeholders replaced at once. -/
  code_eq : code = String.ofList
    (trimLineEnds (substitute (insertions slots) standardTemplate.toList))
  /-- Nothing that is put in is taken apart by what stands around it. -/
  stands : ∀ i ∈ insertions slots,
    i.text <:+: substitute (insertions slots) standardTemplate.toList
  /-- What is put in is the value itself, unless a later placeholder occurs in that. -/
  asIs : ∀ earlier s later, slots = earlier ++ s :: later →
    (∀ s' ∈ later, ¬s'.token.toList <:+: s.value.toList) → ⟨s, s.value.toList⟩ ∈ insertions slots

/-! ### The placeholders -/

lemma isToken_standardHoles : ∀ h ∈ standardHoles, IsToken h := by
  have hholes : ∀ h ∈ standardHoles, h.token.toList ≠ [] ∧ '\n' ∉ h.token.toList := by
    simp [standardHoles]
  exact fun h hmem => ⟨(hholes h hmem).1, (hholes h hmem).2⟩

/-- Each placeholder has a line in which it stands apart from the others. -/
lemma isSpaced_standardTemplate : IsSpaced standardHoles standardTemplate.toList ∧
    ∀ h ∈ standardHoles, some h.token.toList ∈
      (Line.ofTemplate standardHoles standardTemplate.toList).map Line.token? := by
  rw [IsSpaced, Line.ofTemplate, standardTemplate, linesOf_codeLines (by decide) (by decide +kernel)]
  simp only [List.dropLast_cons_cons, List.dropLast_singleton, List.map_cons, List.map_nil]
  -- literals as lists of characters, which are faster to go through
  repeat rw [String.toList_ofList]
  decide +kernel

lemma nodup_standardHoles : (standardHoles.map fun h => h.token.toList).Nodup := by
  simp [standardHoles]

lemma substitute_standardTemplate {inserted : List Insertion}
    (hholes : (inserted.map fun i => i.toHole) = standardHoles) :
    substitute inserted standardTemplate.toList =
      (Line.ofTemplate standardHoles standardTemplate.toList).flatMap fun l =>
        l.inserting inserted := by
  have htokens : ∀ i ∈ inserted, IsToken i.toHole := fun i hi =>
    isToken_standardHoles _ (hholes ▸ List.mem_map_of_mem hi)
  rw [← substitute_flatMap htokens (by rw [hholes]; exact isSpaced_standardTemplate.1),
    flatMap_ofTemplate]

lemma map_toHole_slots (h : t.slots tableName options timestamp = .ok slots) :
    slots.map Slot.toHole = standardHoles := by
  unfold DataTable.slots at h
  obtain ⟨schema, -, h⟩ := bind_eq_ok.mp h
  obtain ⟨rowType, -, h⟩ := bind_eq_ok.mp h
  obtain ⟨idComment, -, h⟩ := bind_eq_ok.mp h
  rw [← pure_eq_ok.mp h]
  rfl

/-- Emitting goes through the placeholders, one after the other. -/
lemma emit_eq_foldl (t : DataTable) (tableName template : String) (options : EmitOptions)
    (timestamp : String) : t.emit tableName template options timestamp = (do
      let slots ← t.slots tableName options timestamp
      return String.ofList
        (trimLineEnds (slots.foldl (fun text s => s.fill text) template.toList))) := by
  unfold DataTable.emit DataTable.slots
  simp only [bind_assoc, pure_bind]
  rfl

lemma emit_standardTemplate (hslots : t.slots tableName options timestamp = .ok slots)
    (hdrops : DropsOwnLines slots) : t.emit tableName standardTemplate options timestamp =
      .ok (String.ofList (trimLineEnds (substitute (insertions slots) standardTemplate.toList))) := by
  have hholes := map_toHole_slots hslots
  have htokens : ∀ s ∈ slots, IsToken s.toHole := fun s hs =>
    isToken_standardHoles _ (hholes ▸ List.mem_map_of_mem hs)
  rw [emit_eq_foldl, hslots, ← foldl_fill_eq_substitute htokens
    (by rw [hholes]; exact isSpaced_standardTemplate.1) hdrops]
  rfl

lemma text_infix_substitute (hslots : t.slots tableName options timestamp = .ok slots)
    {i : Insertion} (hi : i ∈ insertions slots) :
    i.text <:+: substitute (insertions slots) standardTemplate.toList := by
  have hholes : ((insertions slots).map fun i => i.toHole) = standardHoles := by
    rw [map_toHole_insertions, map_toHole_slots hslots]
  have hnodup : ((insertions slots).map fun i => i.token.toList).Nodup := by
    have htokens := nodup_standardHoles
    rwa [← hholes, List.map_map] at htokens
  rw [substitute_standardTemplate hholes]
  exact text_infix_flatMap hnodup hi
    (isSpaced_standardTemplate.2 _ (hholes ▸ List.mem_map_of_mem hi))

/-! ### Emitted code -/

/-- Emitting a table that could be made fails only for a number at the end of a name that is no key.
The code is the template with all placeholders replaced at once, except perhaps where a line of a
value ends in the placeholder of an empty block, which has no line to itself there. -/
theorem isFilled_of_emit {grid : Grid} {layout : DataTableLayout} {types : Registry}
    (h : DataTable.ofGrid grid layout types = .ok t) (tableName : String) (options : EmitOptions)
    (timestamp : String) : ∃ s, t.schema = .ok s ∧
      ((∃ e, t.emit tableName standardTemplate options timestamp = .error e) ↔
        ∃ f ∈ s.dataFields, f.HasUnfitKey) ∧
      ∀ code, t.emit tableName standardTemplate options timestamp = .ok code →
        ∃ slots, t.slots tableName options timestamp = .ok slots ∧
          (DropsOwnLines slots → IsFilled slots code) := by
  have haccepted := accepted_of_ofGrid h
  obtain ⟨s, hs⟩ := exists_schema haccepted
  refine ⟨s, hs, emit_fails_iff haccepted hs _ _ _ _, fun code hcode => ?_⟩
  obtain ⟨slots, hslots, -⟩ := bind_eq_ok.mp (emit_eq_foldl .. ▸ hcode)
  refine ⟨slots, hslots, fun hdrops => ⟨?_, fun i => text_infix_substitute hslots, ?_⟩⟩
  · exact Except.ok.inj (hcode.symm.trans (emit_standardTemplate hslots hdrops))
  · rintro earlier s later rfl
    exact mem_insertions_of_free

/-! ### A placeholder in a cell -/

/-- A table whose description is a placeholder. -/
def placeholderGrid : Grid where
  rows := [["", "__DATA_TABLE_ID_COMMENT__", ""], ["", "Id", "Name"], ["", "int", "string"],
    ["", "key", "name"]]
  rectangular := by decide

def placeholderRowType : RowType where
  properties := [⟨2, "Name", .data, .builtin .string, "String", "name"⟩]
  fromText := [⟨"id", .ofType "tablegen::runtime" 1 (.builtin .int32), false⟩,
    ⟨"name", .ofType "tablegen::runtime" 2 (.builtin .string), false⟩]
  fromBytes := [⟨"id", .ofType "tablegen::runtime" (.builtin .int32), false⟩,
    ⟨"name", .ofType "tablegen::runtime" (.builtin .string), false⟩]
  groups := []

def placeholderSlots : List Slot := [
  ⟨⟨"__DATA_TABLE_CREATE_TIME__", false⟩, "now"⟩,
  ⟨⟨"__DATA_TABLE_NAME_SPACE__", false⟩, "tablegen::runtime"⟩,
  ⟨⟨"__DATA_TABLE_CLASS_NAME__", false⟩, "DRHero"⟩,
  ⟨⟨"__DATA_TABLE_COMMENT__", false⟩, "__DATA_TABLE_ID_COMMENT__"⟩,
  ⟨⟨"__DATA_TABLE_ID_COMMENT__", false⟩, "key"⟩,
  ⟨⟨"__DATA_TABLE_FIELDS__", true⟩, placeholderRowType.fieldsBlock⟩,
  ⟨⟨"__DATA_TABLE_PROPERTIES__", true⟩, placeholderRowType.propertiesBlock⟩,
  ⟨⟨"__DATA_TABLE_PARSER__", true⟩, placeholderRowType.parserBlock ['"']⟩,
  ⟨⟨"__DATA_TABLE_PROPERTY_ARRAY__", true⟩, ""⟩]

lemma slots_placeholderGrid : ∃ t, DataTable.ofGrid placeholderGrid {} .standard = .ok t ∧
    t.slots "hero" {} "now" = .ok placeholderSlots := by
  have hmade : ((DataTable.ofGrid placeholderGrid {} .standard).bind fun t => do
      return (← t.schema, Naming.className "DR" "hero", Text.trim t.summary,
        Text.trim (← t.comment t.layout.idColumn))).toOption =
      some (⟨3, [⟨1, "Id", .id, .builtin .int32, "i32", "key"⟩,
        ⟨2, "Name", .data, .builtin .string, "String", "name"⟩]⟩, "DRHero",
        "__DATA_TABLE_ID_COMMENT__", "key") := by
    decide +kernel
  obtain ⟨t, ht, hparts⟩ := bind_eq_ok.mp (toOption_eq_some.mp hmade)
  obtain ⟨s, hs, hparts⟩ := bind_eq_ok.mp hparts
  obtain ⟨comment, hcomment, hparts⟩ := bind_eq_ok.mp hparts
  simp only [pure_eq_ok, Prod.mk.injEq] at hparts
  obtain ⟨rfl, hname, hsummary, htrimmed⟩ := hparts
  refine ⟨t, ht, bind_eq_ok.mpr ⟨_, hs, bind_eq_ok.mpr ⟨placeholderRowType, rfl,
    bind_eq_ok.mpr ⟨comment, hcomment, ?_⟩⟩⟩⟩
  rw [show ({} : EmitOptions).classStart = "DR" from rfl, hname, hsummary, htrimmed]
  rfl

lemma free_blocks : ¬"__".toList <:+: placeholderRowType.fieldsBlock.toList ∧
    ¬"__".toList <:+: placeholderRowType.propertiesBlock.toList ∧
    ¬"__".toList <:+: (placeholderRowType.parserBlock ['"']).toList := by
  simp only [RowType.parserBlock, RowType.textParser, RowType.bytesParser, RowType.rowReader,
    RowType.construction, placeholderRowType, codeItems, codeLines, String.toList_intercalate,
    String.toList_append, List.map_cons, List.map_nil, List.isEmpty_nil, if_true, List.cons_append,
    List.nil_append, List.append_nil]
  repeat rw [String.toList_ofList]
  decide +kernel

lemma dropsOwnLines_placeholderSlots : DropsOwnLines placeholderSlots := by
  have hmark : ∀ s ∈ placeholderSlots, "__".toList <:+: s.token.toList := by decide +kernel
  have hfree : ∀ n text, ¬"__".toList <:+: text → SparesLines (placeholderSlots.drop n) text :=
    fun n text => sparesLines_of_free fun s hs => hmark s (List.mem_of_mem_drop hs)
  have hsummary : SparesLines (placeholderSlots.drop 4) "__DATA_TABLE_ID_COMMENT__".toList :=
    ⟨nofun, hfree 5 _ (by decide)⟩
  obtain ⟨hfields, hproperties, hparser⟩ := free_blocks
  exact ⟨hfree 1 _ (by decide), hfree 2 _ (by decide), hfree 3 _ (by decide), hsummary,
    hfree 5 _ (by decide), hfree 6 _ hfields, hfree 7 _ hproperties, hfree 8 _ hparser, trivial,
    trivial⟩

theorem isFilled_of_emit_placeholder : ∃ t slots code,
    DataTable.ofGrid placeholderGrid {} .standard = .ok t ∧
    t.slots "hero" {} "now" = .ok slots ∧ DropsOwnLines slots ∧
    t.emit "hero" standardTemplate {} "now" = .ok code ∧ IsFilled slots code := by
  obtain ⟨t, ht, hslots⟩ := slots_placeholderGrid
  obtain ⟨s, hs, -, hfilled⟩ := isFilled_of_emit ht "hero" {} "now"
  have hcode := emit_standardTemplate hslots dropsOwnLines_placeholderSlots
  obtain ⟨slots, hsame, hfilled⟩ := hfilled _ hcode
  obtain rfl := Except.ok.inj (hsame.symm.trans hslots)
  exact ⟨t, _, _, ht, hslots, dropsOwnLines_placeholderSlots, hcode,
    hfilled dropsOwnLines_placeholderSlots⟩

/-- Slots whose values are put in as they are. -/
def verbatim (slots : List Slot) : List Insertion := slots.map fun s => ⟨s, s.value.toList⟩

/-- The lines of the template up to the description of the table. -/
def firstLines (inserted : List Insertion) : List Char :=
  ((Line.ofTemplate standardHoles standardTemplate.toList).take 6).flatMap fun l =>
    l.inserting inserted

lemma firstLines_placeholderSlots : ∃ front,
    firstLines (verbatim placeholderSlots) =
      front ++ '\n' :: ("/// __DATA_TABLE_ID_COMMENT__".toList ++ ['\n']) ∧
    firstLines (insertions placeholderSlots) = front ++ '\n' :: ("/// key".toList ++ ['\n']) := by
  refine ⟨("// Generated by tablegen at now.\n// Changes are overwritten on the next generation run." ++
    "\n\nuse tablegen::runtime::*;\n").toList, ?_⟩
  rw [firstLines, firstLines, standardTemplate, codeLines, String.toList_intercalate,
    String.toList_append]
  simp only [List.map_cons, List.map_nil]
  repeat rw [String.toList_ofList]
  decide +kernel

lemma substitute_eq_firstLines {inserted : List Insertion}
    (hholes : (inserted.map fun i => i.toHole) = standardHoles) :
    ∃ rest, substitute inserted standardTemplate.toList = firstLines inserted ++ rest := by
  refine ⟨((Line.ofTemplate standardHoles standardTemplate.toList).drop 6).flatMap fun l =>
    l.inserting inserted, ?_⟩
  rw [substitute_standardTemplate hholes, firstLines, ← List.flatMap_append, List.take_append_drop]

/-- A value that holds a later placeholder does not stand in the code as it is. -/
theorem not_verbatim_of_placeholder : ¬∀ (grid : Grid) (layout : DataTableLayout) (types : Registry)
    (t : DataTable) (tableName : String) (options : EmitOptions) (timestamp : String)
    (slots : List Slot), DataTable.ofGrid grid layout types = .ok t →
      t.slots tableName options timestamp = .ok slots →
      t.emit tableName standardTemplate options timestamp = .ok (String.ofList
        (trimLineEnds (substitute (verbatim slots) standardTemplate.toList))) := by
  intro h
  obtain ⟨t, ht, hslots⟩ := slots_placeholderGrid
  have hcode := emit_standardTemplate hslots dropsOwnLines_placeholderSlots
  have hsame := String.ofList_inj.mp (Except.ok.inj (hcode.symm.trans (h _ _ _ _ _ _ _ _ ht hslots)))
  have hholes : (verbatim placeholderSlots).map (fun i => i.toHole) = standardHoles := rfl
  obtain ⟨rest, hrest⟩ := substitute_eq_firstLines (map_toHole_insertions placeholderSlots)
  obtain ⟨rest', hrest'⟩ := substitute_eq_firstLines hholes
  obtain ⟨front, hverbatim, hinserted⟩ := firstLines_placeholderSlots
  rw [hrest, hrest', hinserted, hverbatim, List.append_assoc, List.append_assoc,
    List.cons_append, List.cons_append, trimLineEnds_line, trimLineEnds_line, List.append_assoc,
    List.append_assoc] at hsame
  have hline := (List.cons.inj (List.append_cancel_left hsame)).2
  rw [trimLineEnds_append (show '\n' ∉ "/// key".toList by decide) (by decide),
    trimLineEnds_append (show '\n' ∉ "/// __DATA_TABLE_ID_COMMENT__".toList by decide)
      (by decide)] at hline
  simp at hline

end Proofs

end TypedTables
