import TypedTables.Proofs.Number.Integer
import TypedTables.Proofs.Result
import TypedTables.RowType.Block

/-!
# What the blocks hold

The blocks of emitted code declare the names that a row type has, each once and no others. The
parsers have one line for each field that is assigned, in order, and its text is that of the call
that is run for the field. The method that fills the collections has one line for each of them.
-/

namespace TypedTables.Proofs

variable {t : RowType}

/-! ### Lines -/

lemma codeLines_append {lines others : List String} (h : lines ≠ []) (h' : others ≠ []) :
    codeLines (lines ++ others) = codeLines lines ++ "\n" ++ codeLines others :=
  String.intercalate_append_of_ne_nil h h'

/-- Lines within lines. -/
lemma codeLines_nested (before after : List String) {lines : List String} (h : lines ≠ []) :
    codeLines (before ++ codeLines lines :: after) = codeLines (before ++ lines ++ after) := by
  have hsingle : codeLines [codeLines lines] = codeLines lines := String.intercalate_singleton
  have hafter : codeLines (codeLines lines :: after) = codeLines (lines ++ after) := by
    by_cases hnil : after = []
    · rw [hnil, List.append_nil, hsingle]
    · rw [← List.singleton_append, codeLines_append (by simp) hnil, codeLines_append h hnil, hsingle]
  by_cases hnil : before = []
  · rw [hnil, List.nil_append, List.nil_append, hafter]
  · rw [codeLines_append hnil (by simp), hafter, List.append_assoc,
      codeLines_append hnil (by simp [h])]

/-! ### Declarations -/

/-- Whether a line declares a field of this name. -/
def DeclaresField (name line : String) : Prop :=
  ∃ type, line = "    " ++ name ++ ": " ++ type ++ ","

/-- Whether a line begins a method of this name. -/
def BeginsMethod (name line : String) : Prop :=
  ∃ visibility ∈ ["", "pub "], ∃ rest, line = "    " ++ visibility ++ "fn " ++ name ++ "(" ++ rest

/-- Whether an item is a method of this name, with comments above it. -/
def DeclaresMethod (name item : String) : Prop :=
  ∃ comments line body, item = "\n".intercalate (comments ++ line :: body) ∧
    (∀ comment ∈ comments, ∃ text, comment = "    /// " ++ text) ∧ BeginsMethod name line

/-- Whether a block holds methods of these names and nothing else, each below a blank line. -/
def DeclaresMethods (names : List String) (block : String) : Prop :=
  ∃ items, block = "\n".intercalate (items.map fun item => "\n" ++ item) ∧
    List.Forall₂ DeclaresMethod names items

/-- The stored fields are declared under their names, in order. The field of the id is the
template's. -/
theorem declaresField_fieldsBlock (t : RowType) : ∃ lines,
    t.fieldsBlock = "\n".intercalate lines ∧
      List.Forall₂ DeclaresField t.fieldNames.tail lines := by
  refine ⟨_, rfl, List.rel_append ?_ ?_⟩
  · simp only [List.forall₂_map_left_iff, List.forall₂_map_right_iff, List.forall₂_same]
    exact fun f _ => ⟨f.keyword, rfl⟩
  · simp only [List.forall₂_map_left_iff, List.forall₂_map_right_iff, List.forall₂_same]
    exact fun g _ => ⟨"Vec<(i32, " ++ g.keyword ++ ")>", by simp [← String.toList_inj, toString]⟩

lemma beginsMethod_pub (name rest : String) {line : String}
    (h : line = "    pub fn " ++ name ++ "(" ++ rest) : BeginsMethod name line :=
  ⟨"pub ", by simp, rest, by simpa using h⟩

lemma declaresMethod_of_line {name line : String} (h : BeginsMethod name line)
    (body : List String) : DeclaresMethod name (codeLines (line :: body)) :=
  ⟨[], line, body, rfl, by simp, h⟩

lemma declaresMethod_propertyItem (f : Field) :
    DeclaresMethod f.ident (RowType.propertyItem f) := by
  refine ⟨_, _, _, rfl, ?_, ?_⟩
  · intro comment hcomment
    split at hcomment
    · cases hcomment
    · exact ⟨_, List.mem_singleton.mp hcomment⟩
  · exact beginsMethod_pub f.ident
      ("&self) -> " ++ (Handing.of f.type f.keyword).resultType f.keyword ++ " \x7b")
      (by simp [← String.toList_inj, toString])

lemma declaresMethod_groupItems (g : RowGroup) :
    List.Forall₂ DeclaresMethod [g.countName, g.entryName, g.entryAtName] (RowType.groupItems g) := by
  refine .cons ?_ (.cons ?_ (.cons ?_ .nil))
  · exact declaresMethod_of_line (beginsMethod_pub g.countName "&self) -> usize \x7b"
      (by simp [← String.toList_inj, toString])) _
  · exact declaresMethod_of_line (beginsMethod_pub g.entryName ("&self, id: i32) -> Result<" ++
      g.handing.resultType g.keyword ++ ", DataRowError> \x7b")
      (by simp [← String.toList_inj, toString])) _
  · exact declaresMethod_of_line (beginsMethod_pub g.entryAtName ("&self, index: usize) -> Result<" ++
      g.handing.resultType g.keyword ++ ", DataRowError> \x7b")
      (by simp [← String.toList_inj, toString])) _

lemma declaresMethod_parsers (t : RowType) (trimChars : List Char) :
    List.Forall₂ DeclaresMethod ["parse_data_row", "parse_data_row_bytes", "read_data_row"]
      [t.textParser trimChars, RowType.bytesParser, t.rowReader] := by
  refine .cons ?_ (.cons ?_ (.cons ?_ .nil))
  · exact declaresMethod_of_line (beginsMethod_pub _
      "data_row_string: &str) -> Result<Self, DataRowError> \x7b" rfl) _
  · exact declaresMethod_of_line (beginsMethod_pub _
      "data_row_bytes: &[u8]) -> Result<Self, DataRowError> \x7b" rfl) _
  · refine ⟨[_], _, _, rfl, ?_, beginsMethod_pub _
      "reader: &mut DataRowReader<'_>) -> Result<Self, DataRowError> \x7b" rfl⟩
    rintro comment hcomment
    exact ⟨"Read one record; records are stored back to back without delimiters.",
      List.mem_singleton.mp hcomment⟩

lemma declaresMethods_propertiesBlock (t : RowType) :
    DeclaresMethods (t.properties.map Field.ident) t.propertiesBlock := by
  refine ⟨t.properties.map RowType.propertyItem, rfl, ?_⟩
  simp only [List.forall₂_map_left_iff, List.forall₂_map_right_iff, List.forall₂_same]
  exact fun f _ => declaresMethod_propertyItem f

lemma declaresMethods_parserBlock (t : RowType) (trimChars : List Char) :
    DeclaresMethods ["parse_data_row", "parse_data_row_bytes", "read_data_row"]
      (t.parserBlock trimChars) :=
  ⟨_, rfl, declaresMethod_parsers t trimChars⟩

lemma declaresMethods_collectionsBlock (h : t.groups ≠ []) :
    DeclaresMethods ("generate_property_array" ::
      t.groups.flatMap fun g => [g.countName, g.entryName, g.entryAtName]) t.collectionsBlock := by
  have hitems : List.Forall₂ DeclaresMethod
      (t.groups.flatMap fun g => [g.countName, g.entryName, g.entryAtName])
      (t.groups.flatMap RowType.groupItems) := by
    induction t.groups with
    | nil => exact .nil
    | cons g groups ih => exact List.rel_append (declaresMethod_groupItems g) ih
  have hfiller : BeginsMethod "generate_property_array"
      "    fn generate_property_array(&mut self) \x7b" :=
    ⟨"", by simp, "&mut self) \x7b", rfl⟩
  exact ⟨_, if_neg (by simpa using h), .cons (declaresMethod_of_line hfiller _) hitems⟩

/-- The methods of the blocks are those that the row type lists, each of them once. The accessor of
the id is the template's, and without collections there is nothing that fills them. -/
theorem declaresMethods_blocks (t : RowType) (trimChars : List Char) :
    ∃ accessors parsers fillers, DeclaresMethods accessors t.propertiesBlock ∧
      DeclaresMethods parsers (t.parserBlock trimChars) ∧
      DeclaresMethods fillers t.collectionsBlock ∧
      t.methodNames.Perm ("id" :: (accessors ++ parsers ++ fillers) ++
        if t.groups = [] then ["generate_property_array"] else []) := by
  by_cases hgroups : t.groups = []
  · have hnone : DeclaresMethods [] t.collectionsBlock := by
      rw [RowType.collectionsBlock, hgroups]
      exact ⟨[], rfl, .nil⟩
    refine ⟨_, _, _, declaresMethods_propertiesBlock t, declaresMethods_parserBlock t trimChars,
      hnone, List.perm_iff_count.mpr fun name => ?_⟩
    simp [RowType.methodNames, hgroups, List.count_cons, List.count_append]
    omega
  · refine ⟨_, _, _, declaresMethods_propertiesBlock t, declaresMethods_parserBlock t trimChars,
      declaresMethods_collectionsBlock hgroups, List.perm_iff_count.mpr fun name => ?_⟩
    simp [RowType.methodNames, hgroups, List.count_cons, List.count_append]
    omega

/-! ### Calls -/

/-- What an expression of emitted code reads from bytes. A method of the reader goes by its name. A
function of the namespace goes by the name of a type, and reads the components of that type. -/
inductive MeansRead : String → Read Value → Prop
  | method (m : ReaderMethod) : MeansRead ("reader." ++ m.name ++ "()") m.run
  | function (space name : String) (components : List ColumnType) :
    MeansRead (space ++ "::read_" ++ Naming.snakeCase name ++ "(reader)")
      (Value.composite <$> ColumnType.readEach components)

/-- What an expression of emitted code takes from the text of a row: a cell of a column as a value of
a builtin type, which goes by the text of the type, or as a function of the namespace parses it,
which goes by the name of the type. -/
inductive MeansScan : String → Scan Value → Prop
  | cell (column : Nat) (b : Builtin) :
    MeansScan ("fields.seek(" ++ toString column ++ ").next::<" ++ b.typeText ++ ">()")
      (TextCall.run ⟨column, .cell b⟩)
  | function (column : Nat) (space name typeText : String) (copies : Bool)
      (components : List ColumnType) :
    MeansScan ("fields.seek(" ++ toString column ++ ").next_with(" ++ space ++ "::parse_" ++
        Naming.snakeCase name ++ ")")
      (TextCall.run (.ofType space column (.custom name typeText copies components)))

/-- Whether a line assigns a field what its call gives. -/
def AssignsCall {Call Meaning : Type} (means : String → Meaning → Prop) (run : Call → Meaning)
    (a : Assignment Call) (line : String) : Prop :=
  ∃ expression, means expression (run a.call) ∧ line = "            " ++ a.ident ++ ": " ++
    expression ++ (if a.converts then "?.into()," else "?,")

/-- The lines that make a row, with these lines for its fields. Collections are empty at first and
filled at the end. -/
def rowLines (groups : List RowGroup) (lines : List String) : List String :=
  if groups = [] then "        Ok(Self \x7b" :: lines ++ ["        \x7d)"]
  else "        let mut row = Self \x7b" :: lines ++
    groups.map (fun g => "            " ++ g.itemsName ++ ": Vec::new(),") ++
      ["        \x7d;", "        row.generate_property_array();", "        Ok(row)"]

/-- Whether a parser runs these calls: behind its signature it makes a row, with one line for each
call, in order. -/
def RunsCalls {Call Meaning : Type} (means : String → Meaning → Prop) (run : Call → Meaning)
    (groups : List RowGroup) (calls : List (Assignment Call)) (signature : List String)
    (parser : String) : Prop :=
  ∃ lines, List.Forall₂ (AssignsCall means run) calls lines ∧
    parser = "\n".intercalate (signature ++ rowLines groups lines ++ ["    \x7d"])

lemma meansRead_text (space : String) (type : ColumnType) :
    MeansRead (ReaderCall.ofType space type).text (ReaderCall.ofType space type).run := by
  cases type with
  | builtin b => exact .method (.ofBuiltin b)
  | custom name typeText copies components =>
    have htext : (ReaderCall.ofType space (.custom name typeText copies components)).text =
        space ++ "::read_" ++ Naming.snakeCase name ++ "(reader)" := by
      simp [ReaderCall.ofType, ReaderCall.text, CustomType.readFunction, ← String.toList_inj, toString]
    rw [htext]
    exact .function space name components

lemma meansScan_text (space : String) (column : Nat) (type : ColumnType) :
    MeansScan (TextCall.ofType space column type).text (TextCall.ofType space column type).run := by
  cases type with
  | builtin b => exact .cell column b
  | custom name typeText copies components =>
    have htext : (TextCall.ofType space column (.custom name typeText copies components)).text =
        "fields.seek(" ++ toString column ++ ").next_with(" ++ space ++ "::parse_" ++
          Naming.snakeCase name ++ ")" := by
      simp [TextCall.ofType, TextCall.text, CustomType.parseFunction, ← String.toList_inj, toString]
    rw [htext]
    exact .function column space name typeText copies components

lemma name_injective : Function.Injective ReaderMethod.name := by
  intro m m' h
  cases m <;> cases m' <;> first | rfl | simp [ReaderMethod.name] at h

/-- The text of a call of a method says what it reads. -/
theorem meansRead_method_iff {m : ReaderMethod} {read : Read Value} :
    MeansRead ("reader." ++ m.name ++ "()") read ↔ read = m.run := by
  constructor
  · intro h
    generalize htext : "reader." ++ m.name ++ "()" = text at h
    cases h with
    | method m' =>
      have hname : m.name = m'.name := by simpa [← String.toList_inj] using htext
      rw [name_injective hname]
    | function space name components =>
      have hlast := congrArg (fun s => s.toList.reverse.take 2) htext
      simp at hlast
  · rintro rfl
    exact .method m

lemma typeText_injective : Function.Injective Builtin.typeText := by
  intro b b' h
  cases b <;> cases b' <;> first | rfl | simp [Builtin.typeText] at h

lemma append_cons_inj {c : Char} {s s' rest rest' : List Char} (hs : c ∉ s) (hs' : c ∉ s')
    (h : s ++ c :: rest = s' ++ c :: rest') : s = s' ∧ rest = rest' := by
  have hfront : ∀ {s : List Char} (rest : List Char), c ∉ s →
      (s ++ c :: rest).takeWhile (· != c) = s := by
    intro s rest hs
    have hall : ∀ a ∈ s, (a != c) = true := fun a ha => bne_iff_ne.mpr (ne_of_mem_of_not_mem ha hs)
    rw [List.takeWhile_append_of_pos hall, List.takeWhile_cons_of_neg (by simp), List.append_nil]
  obtain rfl : s = s' := by rw [← hfront rest hs, h, hfront rest' hs']
  exact ⟨rfl, by simpa using h⟩

lemma not_mem_toDigits {c : Char} (hc : c.isDigit = false) (n : Nat) : c ∉ Nat.toDigits 10 n := by
  intro hmem
  rw [Nat.isDigit_of_mem_toDigits (by decide) (by decide) hmem] at hc
  cases hc

lemma toDigits_injective : Function.Injective (Nat.toDigits 10) :=
  Function.LeftInverse.injective (g := fun digits => Nat.ofDigitChars 10 digits 0)
    fun _ => Nat.ofDigitChars_ten_toDigits

/-- The text of a call for a builtin type says which cell it takes and as what. -/
theorem meansScan_cell_iff {column : Nat} {b : Builtin} {scan : Scan Value} :
    MeansScan ("fields.seek(" ++ toString column ++ ").next::<" ++ b.typeText ++ ">()") scan ↔
      scan = TextCall.run ⟨column, .cell b⟩ := by
  constructor
  · intro h
    generalize htext : "fields.seek(" ++ toString column ++ ").next::<" ++ b.typeText ++ ">()" = text
      at h
    cases h with
    | cell column' b' =>
      have hchars : Nat.toDigits 10 column ++ ')' :: (".next::<".toList ++ b.typeText.toList ++
          ">()".toList) = Nat.toDigits 10 column' ++ ')' :: (".next::<".toList ++
            b'.typeText.toList ++ ">()".toList) := by
        simpa [← String.toList_inj] using htext
      obtain ⟨hnumber, hrest⟩ := append_cons_inj (not_mem_toDigits rfl column)
        (not_mem_toDigits rfl column') hchars
      have htype : b.typeText = b'.typeText := by simpa [← String.toList_inj] using hrest
      rw [toDigits_injective hnumber, typeText_injective htype]
    | function column' space name typeText copies components =>
      have hchars : Nat.toDigits 10 column ++ ')' :: (".next::<".toList ++ b.typeText.toList ++
          ">()".toList) = Nat.toDigits 10 column' ++ ')' :: (".next_with(".toList ++ space.toList ++
            "::parse_".toList ++ (Naming.snakeCase name).toList ++ ")".toList) := by
        simpa [← String.toList_inj] using htext
      obtain ⟨-, hrest⟩ := append_cons_inj (not_mem_toDigits rfl column)
        (not_mem_toDigits rfl column') hchars
      simp at hrest
  · rintro rfl
    exact .cell column b

/-! ### Parsers -/

lemma construction_eq {Call : Type} (callText : Call → String) (calls : List (Assignment Call)) :
    t.construction callText calls = codeLines (rowLines t.groups (calls.map fun a =>
      "            " ++ a.ident ++ ": " ++ callText a.call ++
        (if a.converts then "?.into()," else "?,"))) := by
  unfold RowType.construction rowLines
  by_cases hgroups : t.groups = []
  · rw [if_pos (by simpa using hgroups), if_pos hgroups]
    rfl
  · rw [if_neg (by simpa using hgroups), if_neg hgroups]
    rfl

lemma rowLines_ne_nil (groups : List RowGroup) (lines : List String) :
    rowLines groups lines ≠ [] := by
  unfold rowLines
  split <;> simp

lemma runsCalls_construction {Call Meaning : Type} {means : String → Meaning → Prop}
    {run : Call → Meaning} {callText : Call → String} (t : RowType) {calls : List (Assignment Call)}
    (h : ∀ a ∈ calls, means (callText a.call) (run a.call)) (signature : List String) :
    RunsCalls means run t.groups calls signature
      (codeLines (signature ++ [t.construction callText calls, "    \x7d"])) := by
  refine ⟨calls.map fun a => "            " ++ a.ident ++ ": " ++ callText a.call ++
    (if a.converts then "?.into()," else "?,"), ?_, ?_⟩
  · simp only [List.forall₂_map_right_iff, List.forall₂_same]
    exact fun a ha => ⟨callText a.call, h a ha, rfl⟩
  · rw [construction_eq, codeLines_nested _ _ (rowLines_ne_nil _ _)]
    rfl

/-- What holds of the call for each type holds of all calls for a schema. -/
lemma forall_assignments {Call : Type} {call : Field → Call} (P : Call → Prop)
    (h : ∀ f, P (call f)) (s : Schema) (key : Field) :
    ∀ a ∈ RowType.assignments call s key, P a.call := by
  intro a ha
  rcases List.mem_cons.mp ha with rfl | ha
  · exact h key
  · obtain ⟨f, -, rfl⟩ := List.mem_map.mp ha
    exact h f

/-- What the text parser of a row type begins with. -/
def textSignature (trimChars : List Char) : List String :=
  ["    pub fn parse_data_row(data_row_string: &str) -> Result<Self, DataRowError> \x7b",
    "        let mut fields = TextRowFields::new(data_row_string, &[" ++
      ", ".intercalate (trimChars.map Text.charLiteral) ++ "]);"]

/-- What the reader of a row type begins with. -/
def readerSignature : List String :=
  ["    /// Read one record; records are stored back to back without delimiters.",
    "    pub fn read_data_row(reader: &mut DataRowReader<'_>) -> Result<Self, DataRowError> \x7b"]

/-- The parsers that are emitted for a schema run the calls for its fields, the id first and then the
data fields in order, and nothing else. -/
theorem runsCalls_ofSchema {space : String} {s : Schema} (h : RowType.ofSchema space s = .ok t)
    (trimChars : List Char) : ∃ key, s.idField? = some key ∧
      RunsCalls MeansRead ReaderCall.run t.groups (RowType.readerAssignments space s key)
        readerSignature t.rowReader ∧
      RunsCalls MeansScan TextCall.run t.groups (RowType.textAssignments space s key)
        (textSignature trimChars) (t.textParser trimChars) := by
  obtain ⟨collections, -, h⟩ := bind_eq_ok.mp h
  cases hkey : s.idField? with
  | none =>
    rw [hkey] at h
    cases h
  | some key =>
    rw [hkey] at h
    obtain rfl := pure_eq_ok.mp h
    refine ⟨key, rfl, runsCalls_construction _ ?_ readerSignature,
      runsCalls_construction _ ?_ (textSignature trimChars)⟩
    · exact forall_assignments (fun call : ReaderCall => MeansRead call.text call.run)
        (fun f => meansRead_text space f.type) s key
    · exact forall_assignments (fun call : TextCall => MeansScan call.text call.run)
        (fun f => meansScan_text space f.column f.type) s key

/-! ### Collections -/

lemma ofSchema_eq_ok (space : String) {s : Schema} {key : Field} {collections : List Collection}
    (hcollections : s.collections = .ok collections) (hkey : s.idField? = some key) :
    ∃ rowType, RowType.ofSchema space s = .ok rowType ∧ rowType.properties = s.dataFields ∧
      rowType.groups = collections.map (RowType.groupOf s) := by
  refine ⟨⟨s.dataFields, RowType.textAssignments space s key, RowType.readerAssignments space s key,
    collections.map (RowType.groupOf s)⟩, ?_, rfl, rfl⟩
  refine bind_eq_ok.mpr ⟨collections, mapError_eq_ok.mpr hcollections, ?_⟩
  simp only [hkey]
  rfl

lemma groups_ofSchema {space : String} {s : Schema} {collections : List Collection}
    (h : RowType.ofSchema space s = .ok t) (hcollections : s.collections = .ok collections) :
    t.groups = collections.map (RowType.groupOf s) := by
  cases hkey : s.idField? with
  | none =>
    obtain ⟨_, -, hrest⟩ := bind_eq_ok.mp h
    rw [hkey] at hrest
    cases hrest
  | some key =>
    obtain ⟨_, hrowType, -, hgroups⟩ := ofSchema_eq_ok space hcollections hkey
    obtain rfl := Except.ok.inj (h.symm.trans hrowType)
    exact hgroups

lemma exists_codeItems_cons (item : String) (items : List String) :
    ∃ others, codeItems (item :: items) = "\n" ++ item ++ others := by
  cases items with
  | nil => exact ⟨"", by simp [codeItems]⟩
  | cons next items =>
    refine ⟨"\n" ++ codeItems (next :: items), ?_⟩
    unfold codeItems
    rw [List.map_cons, List.map_cons, String.intercalate_cons_cons, String.append_assoc]

/-- The method that fills the collections stands before their accessors. -/
lemma exists_collectionsBlock (h : t.groups ≠ []) : ∃ accessors, t.collectionsBlock = "\n" ++
    "\n".intercalate ("    fn generate_property_array(&mut self) \x7b" ::
      t.groups.map RowType.fillLine ++ ["    \x7d"]) ++ accessors := by
  unfold RowType.collectionsBlock
  rw [if_neg (by simpa using h)]
  exact exists_codeItems_cons _ _

/-- An entry is written as its key, in decimal digits, and the property, which is cloned unless values
are copied. -/
lemma fillLine_eq (g : RowGroup) : RowType.fillLine g = "        self." ++ g.itemsName ++ " = vec![" ++
    ", ".intercalate (g.entries.map fun entry => "(" ++ toString entry.1 ++ ", self." ++ entry.2 ++
      (if g.handing = .copy then "" else ".clone()") ++ ")") ++ "];" := by
  have hentry : ∀ entry : Int32 × String,
      "(" ++ Number.intText entry.1.toInt ++ ", " ++ g.handing.owned ("self." ++ entry.2) ++ ")" =
        "(" ++ toString entry.1 ++ ", self." ++ entry.2 ++
          (if g.handing = .copy then "" else ".clone()") ++ ")" := by
    intro entry
    rw [intText_eq_toString, ← String.toList_inj]
    cases g.handing <;> simp [Handing.owned, toString]
  simp only [← hentry]
  rfl

end TypedTables.Proofs
