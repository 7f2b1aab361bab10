import TypedTables.Proofs.Row.Composite
import TypedTables.Proofs.Table.Recode
import TypedTables.Row.Hero

/-!
# The row type in full and the schema of its table

The straight-line code of the row type and the reading that goes by a schema, field by field, are
two ways to the same rows. Main statement: for the schema of the table of heroes both give the same
values and stop at the same place, or fail with the same error at the same place, on any bytes and
on any line of text.
-/

namespace TypedTables

/-- The values of a row, in the order of the columns of its table. -/
def HeroRow.values (row : HeroRow) : List Value :=
  [.int32 row.id, .string row.name, .uint16 row.level, .int64 row.hp, .float row.speed,
    .bool row.enabled, .byte row.type, row.position.value, .int32 row.skill1, .int32 row.skill2]

namespace Proofs

/-! ### The table of heroes -/

def heroCells : List (List String) := [
  ["#", "Heroes", "", "", "", "", "", "", "", "", "", ""],
  ["#", "Id", "#Note", "Name", "Level", "Hp", "Speed", "Enabled", "Type", "Position", "Skill1",
    "Skill2"],
  ["#", "int", "", "string", "ushort", "long", "float", "bool", "byte", "Vector3", "int", "int"],
  ["#", "Hero id", "designer note", "Display name", "Level cap", "Hit points", "Move speed",
    "Playable", "Hero class", "Spawn point", "First skill", "Second skill"],
  ["", "1", "first", "\"Alice\"", "60", "-5000000000", "3.5", "True", "2", "1,2.5,-3", "101", "102"],
  ["#", "2", "disabled", "Bob", "1", "1", "1", "false", "0", "0,0,0", "0", "0"],
  ["", "3", "", "Carol", "65535", "42", "-0.25", "false", "255", "0,0,0", "301", "-1"]]

def heroSource : String := String.join (heroCells.map fun row => Text.joinWith "\t" row ++ "\n")

def heroSchema : Schema where
  columnCount := 12
  fields := [
    ⟨1, "Id", .id, .builtin .int32, "i32", "Hero id"⟩,
    ⟨3, "Name", .data, .builtin .string, "String", "Display name"⟩,
    ⟨4, "Level", .data, .builtin .uint16, "u16", "Level cap"⟩,
    ⟨5, "Hp", .data, .builtin .int64, "i64", "Hit points"⟩,
    ⟨6, "Speed", .data, .builtin .float, "f32", "Move speed"⟩,
    ⟨7, "Enabled", .data, .builtin .bool, "bool", "Playable"⟩,
    ⟨8, "Type", .data, .builtin .byte, "u8", "Hero class"⟩,
    ⟨9, "Position", .data, (Registry.uniform "Vector3" 3 .float).columnType, "Vector3",
      "Spawn point"⟩,
    ⟨10, "Skill1", .data, .builtin .int32, "i32", "First skill"⟩,
    ⟨11, "Skill2", .data, .builtin .int32, "i32", "Second skill"⟩]

deriving instance DecidableEq for Field, Schema

/-- The characters of the source, without putting the whole text together. -/
lemma toList_heroSource : heroSource.toList =
    heroCells.flatMap fun row => Text.joinChars ['\t'] (row.map String.toList) ++ ['\n'] := by
  simp [heroSource, String.toList_join, List.map_map, List.flatMap_def, Function.comp_def]

lemma parse_heroSource : Source.parse heroSource ['"'] =
    heroCells.map fun row => row.map (Text.stripChars ['"']) := by
  rw [Source.parse, toList_heroSource]
  decide +kernel

/-- The schema of the table of heroes, as its source has it. -/
lemma schema_heroSource :
    (DataTable.ofSource heroSource ['"'] {} Registry.standard).bind DataTable.schema =
      .ok heroSchema := by
  rw [← toOption_eq_some, DataTable.ofSource, Grid.ofSource, parse_heroSource]
  decide +kernel

/-! ### Lines of text -/

section Lines

variable {α : Type} [OfCell α]

/-- The field of a column is read as the property that holds its values. -/
lemma scanField_eq {f : Field} {read : Read α} {value : α → Value} [Represents f.type read value] :
    Schema.scanField f = value <$> (HeroRow.cellAt f.column : Scan α) := by
  have hlocated : ∀ text, Scan.ofExcept ((f.type.parse text).mapError (RowError.conversion f.column)) =
      value <$> Scan.ofExcept ((ofCell text).mapError (RowError.conversion f.column)) := by
    intro text
    funext row
    rw [Represents.parse]
    cases (ofCell text : Except CellFault α) <;> rfl
  -- the cursor stands on the column when its number is asked for
  have hcell : (HeroRow.cellAt f.column : Scan α) = (do
      Scan.seek f.column
      let text ← Scan.field
      Scan.ofExcept ((ofCell text).mapError (RowError.conversion f.column))) := rfl
  unfold Schema.scanField
  simp only [hlocated, hcell, map_bind]

/-- A cell read by a function, which knows only of the first field, is read like any other. -/
lemma cellWith_parseComposite : (Scan.cellWith parseComposite : Scan α) = Scan.cell := by
  have hlocated : ∀ (number : Nat) (text : String),
      Scan.ofExcept ((parseComposite text).mapError (Scan.located number)) =
        Scan.ofExcept ((ofCell text : Except CellFault α).mapError (RowError.conversion number)) := by
    intro number text
    unfold parseComposite
    cases (ofCell text : Except CellFault α) <;> rfl
  simp only [Scan.cellWith, Scan.cell, hlocated]

/-- The row type scans a line field by field, as its schema says. -/
lemma scanFields_eq : heroSchema.fields.mapM Schema.scanField = HeroRow.values <$> HeroRow.scan := by
  simp only [heroSchema, List.mapM_cons, List.mapM_nil, scanField_eq, HeroRow.scan, HeroRow.cellAt,
    cellWith_parseComposite, map_bind, bind_map_left, map_pure, bind_assoc, pure_bind]
  rfl

end Lines

lemma parseLine_eq (line : String) :
    heroSchema.parseLine ['"'] line = (HeroRow.parse line).map HeroRow.values := by
  unfold Schema.parseLine HeroRow.parse
  rw [scanFields_eq]
  simp only [EStateM.run, Functor.map, EStateM.map]
  cases HeroRow.scan (RowFields.ofLine line ['"']) <;> rfl

/-! ### Bytes -/

/-- The row type reads bytes field by field, as its schema says. -/
lemma readRow_eq : heroSchema.readRow = HeroRow.values <$> HeroRow.read := by
  simp only [Schema.readRow, heroSchema, List.mapM_cons, List.mapM_nil, Represents.read,
    HeroRow.read, map_bind, bind_map_left, map_pure, bind_assoc, pure_bind]
  rfl

/-- What is left of the bytes behind a record is what its position says. -/
lemma length_rest {bytes : List UInt8} {row : HeroRow} {next : Reader}
    (h : HeroRow.read (.ofBytes bytes) = .ok row next) :
    bytes.length - next.position = next.rest.length := by
  have hread : heroSchema.readRow (.ofBytes bytes) = .ok row.values next := by
    rw [readRow_eq]
    simp only [Functor.map, EStateM.map, h]
  obtain ⟨taken, hrest, hposition, -⟩ := isLocal_closed.readRow heroSchema _ _ _ hread
  have hlength := congrArg List.length hrest
  simp only [Reader.ofBytes, List.length_append] at hlength hposition
  omega

/-- What the row type makes of bytes that should hold one record, by its schema. -/
lemma parseBytes_eq (bytes : List UInt8) :
    (HeroRow.parseBytes bytes).map HeroRow.values =
      match heroSchema.readRow (.ofBytes bytes) with
      | .error e _ => .error e
      | .ok values next =>
        if next.rest = [] then .ok values
        else .error (.malformed (.trailingBytes next.rest.length)) := by
  rw [readRow_eq]
  simp only [HeroRow.parseBytes, EStateM.run, Functor.map, EStateM.map]
  cases hread : HeroRow.read (.ofBytes bytes) with
  | error e next => rfl
  | ok row next =>
    simp only [length_rest hread]
    by_cases hend : next.rest = []
    · simp [Reader.isAtEnd, hend, Except.map]
    · simp [Reader.isAtEnd, hend, Except.map]

/-! ### Skills -/

/-- The rows that come of reading bytes or text. -/
inductive BuiltRow : HeroRow → Prop
  | read {r : Reader} {row : HeroRow} {next : Reader} (h : HeroRow.read r = .ok row next) :
    BuiltRow row
  | parseBytes {bytes : List UInt8} {row : HeroRow} (h : HeroRow.parseBytes bytes = .ok row) :
    BuiltRow row
  | parse {line : String} {row : HeroRow} (h : HeroRow.parse line = .ok row) : BuiltRow row

lemma skillItems_of_ok {σ : Type} {m : EStateM RowError σ HeroRow} {s next : σ} {row : HeroRow}
    (hm : HeroRow.fillSkills <$> m = m) (h : m s = .ok row next) :
    row.skillItems = [(1, row.skill1), (2, row.skill2)] := by
  rw [← hm] at h
  simp only [Functor.map, EStateM.map] at h
  cases hfirst : m s with
  | error e between => simp [hfirst] at h
  | ok found between =>
    simp only [hfirst, EStateM.Result.ok.injEq] at h
    obtain ⟨rfl, -⟩ := h
    rfl

lemma skillItems_of_read {r next : Reader} {row : HeroRow} (h : HeroRow.read r = .ok row next) :
    row.skillItems = [(1, row.skill1), (2, row.skill2)] := by
  refine skillItems_of_ok ?_ h
  simp only [HeroRow.read, map_bind, map_pure]
  rfl

lemma skillItems_of_builtRow {row : HeroRow} (h : BuiltRow row) :
    row.skillItems = [(1, row.skill1), (2, row.skill2)] := by
  cases h with
  | read h => exact skillItems_of_read h
  | @parseBytes bytes _ h =>
    unfold HeroRow.parseBytes EStateM.run at h
    split at h
    · cases h
    · next found next hread =>
      split at h
      · obtain rfl := Except.ok.inj h
        exact skillItems_of_read hread
      · cases h
  | @parse line _ h =>
    unfold HeroRow.parse EStateM.run at h
    split at h
    · next found next hscan =>
      obtain rfl := Except.ok.inj h
      refine skillItems_of_ok ?_ hscan
      simp only [HeroRow.scan, map_bind, map_pure]
      rfl
    · cases h

/-! ### The row type and its schema -/

/-- Whether the row type does what a schema says. -/
structure FollowsSchema (s : Schema) : Prop where
  /-- From any reader: the same values and the same reader behind them, or the same error and the
  same reader where it stopped. -/
  read : ∀ r, s.readRow r = (HeroRow.values <$> HeroRow.read) r
  /-- Bytes are one record exactly if the schema finds one in them and nothing behind it. -/
  parseBytes : ∀ bytes, (HeroRow.parseBytes bytes).map HeroRow.values =
    match s.readRow (.ofBytes bytes) with
    | .error e _ => .error e
    | .ok values next =>
      if next.rest = [] then .ok values
      else .error (.malformed (.trailingBytes next.rest.length))
  /-- On any line: the same values or the same error. -/
  parse : ∀ line, (HeroRow.parse line).map HeroRow.values = s.parseLine ['"'] line
  skillItems : ∀ row, BuiltRow row → row.skillItems = [(1, row.skill1), (2, row.skill2)]

/-- The row type does what the schema of the table of heroes says. -/
theorem followsSchema_heroSource : ∃ t s,
    DataTable.ofSource heroSource ['"'] {} Registry.standard = .ok t ∧ t.schema = .ok s ∧
      FollowsSchema s := by
  obtain ⟨t, ht, hs⟩ := bind_eq_ok.mp schema_heroSource
  exact ⟨t, heroSchema, ht, hs, fun r => congrFun readRow_eq r, parseBytes_eq,
    fun line => (parseLine_eq line).symm, fun _ => skillItems_of_builtRow⟩

end Proofs

end TypedTables
