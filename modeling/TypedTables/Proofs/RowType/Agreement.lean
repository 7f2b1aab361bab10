import TypedTables.Proofs.Row.Fields
import TypedTables.Proofs.Table.Records

/-!
# The emitted reader and the bytes of a table

A table is written in the order of its columns, and the emitted reader takes the key first. Main
statement: the reader gives back what the emitted parser of text gives exactly if, in every row, the
bytes of the cells left of the key commute with the bytes of the key. With nothing to the left of
the key they always do.
-/

namespace TypedTables.Proofs

open RowType (readRecord readerAssignments textAssignments)

variable {t : DataTable} {s : Schema} {key : Field} {content : List Nat} {bytes : List UInt8}
variable {value : Nat → Field → Value} {piece : Nat → Field → List UInt8}

/-! ### The two orders of the fields -/

def leftOf (s : Schema) (key : Field) : List Field :=
  s.fields.filter fun f => f.column < key.column

/-- Whether, in a row, the bytes of the cells left of the key commute with the bytes of the key. -/
def KeyCommutes (t : DataTable) (s : Schema) (key : Field) (r : Nat) : Prop :=
  ∃ left own, (leftOf s key).mapM (t.encodeCell r) = .ok left ∧ t.encodeCell r key = .ok own ∧
    left.flatten ++ own = own ++ left.flatten

lemma exists_right (hs : t.schema = .ok s) (hkey : key ∈ s.fields) (hrole : key.role = .id) :
    ∃ right, s.fields = leftOf s key ++ key :: right ∧ s.dataFields = leftOf s key ++ right := by
  obtain ⟨left, right, hsplit⟩ := List.append_of_mem hkey
  have hsorted := pairwise_columns hs
  rw [hsplit, List.pairwise_append] at hsorted
  obtain ⟨-, hright, hleft⟩ := hsorted
  have hbefore : ∀ f ∈ left, f.column < key.column := fun f hf => hleft f hf key List.mem_cons_self
  have hbehind : ∀ f ∈ right, key.column < f.column := (List.pairwise_cons.mp hright).1
  have hfilter : leftOf s key = left := by
    rw [leftOf, hsplit, List.filter_append, List.filter_cons_of_neg (by simp),
      List.filter_eq_self.mpr (by simpa using hbefore),
      List.filter_eq_nil_iff.mpr (by simpa using fun f hf => (hbehind f hf).le), List.append_nil]
  have hdata : ∀ f ∈ s.fields, f.column ≠ key.column → f.role = .data := by
    intro f hf hcolumn
    cases hrole' : f.role with
    | data => rfl
    | id =>
      have hf' := (isField_of_mem hs hf).key.mp hrole'
      have hkey' := (isField_of_mem hs hkey).key.mp hrole
      exact absurd (hf'.trans hkey'.symm) hcolumn
  rw [hfilter]
  refine ⟨right, hsplit, ?_⟩
  have hleftData : ∀ f ∈ left, f.role = .data := fun f hf =>
    hdata f (by rw [hsplit]; exact List.mem_append_left _ hf) (hbefore f hf).ne
  have hrightData : ∀ f ∈ right, f.role = .data := fun f hf =>
    hdata f (by rw [hsplit]; exact List.mem_append_right _ (List.mem_cons_of_mem _ hf))
      (hbehind f hf).ne'
  rw [Schema.dataFields, hsplit, List.filter_append, List.filter_cons_of_neg (by simp [hrole]),
    List.filter_eq_self.mpr (by simpa using hleftData),
    List.filter_eq_self.mpr (by simpa using hrightData)]

lemma encodeCell_of_written (hwritten : Written t s content value piece) {r : Nat}
    (hr : r ∈ content) {f : Field} (hf : f ∈ s.fields) : t.encodeCell r f = .ok (piece r f) := by
  obtain ⟨text, htext, hv⟩ := hwritten.parse r hr f hf
  exact encodeCell_eq_ok.mpr ⟨text, value r f, htext, hv, hwritten.encode r hr f hf⟩

/-- The order of the reader and the order of the columns give the same bytes in a row exactly if
the key commutes there. -/
lemma keyCommutes_iff (hs : t.schema = .ok s) (hkey : key ∈ s.fields) (hrole : key.role = .id)
    (hwritten : Written t s content value piece) {r : Nat} (hr : r ∈ content) :
    KeyCommutes t s key r ↔
      (key :: s.dataFields).flatMap (piece r) = s.fields.flatMap (piece r) := by
  obtain ⟨right, hfields, hdata⟩ := exists_right hs hkey hrole
  have hleft : (leftOf s key).mapM (t.encodeCell r) = .ok ((leftOf s key).map (piece r)) :=
    mapM_eq_map fun f hf => encodeCell_of_written hwritten hr (List.mem_of_mem_filter hf)
  have hown := encodeCell_of_written hwritten hr hkey
  have hcommutes : KeyCommutes t s key r ↔
      (leftOf s key).flatMap (piece r) ++ piece r key =
        piece r key ++ (leftOf s key).flatMap (piece r) := by
    unfold KeyCommutes
    simp only [hleft, hown, Except.ok.injEq, List.flatMap_def]
    constructor
    · rintro ⟨_, _, rfl, rfl, h⟩
      exact h
    · intro h
      exact ⟨_, _, rfl, rfl, h⟩
  rw [hcommutes, hdata]
  conv_rhs => rw [hfields]
  simp only [List.flatMap_cons, List.flatMap_append, ← List.append_assoc, List.append_cancel_right_eq]
  exact eq_comm

/-! ### The emitted reader -/

lemma run_readerCall (space : String) (type : ColumnType) :
    (ReaderCall.ofType space type).run = type.read := by
  cases type with
  | builtin b => cases b <;> rfl
  | custom name typeText copies components => rw [ColumnType.read]; rfl

/-- The emitted reader takes the values of its types one after the other. -/
lemma readRecord_eq {space : String} {calls : List (Assignment ReaderCall)}
    {types : List ColumnType} (h : calls.map Assignment.call = types.map (ReaderCall.ofType space)) :
    readRecord calls =
      (fun values => (calls.map Assignment.ident).zip values) <$> ColumnType.readEach types := by
  induction calls generalizing types with
  | nil =>
    obtain rfl : types = [] := List.map_eq_nil_iff.mp h.symm
    rfl
  | cons a rest ih =>
    obtain ⟨type, types, rfl⟩ : ∃ type types', types = type :: types' := by
      cases types with
      | nil => simp at h
      | cons type types' => exact ⟨type, types', rfl⟩
    simp only [List.map_cons, List.cons.injEq] at h
    have hrest := ih h.2
    rw [readRecord] at hrest ⊢
    rw [List.mapM_cons, hrest, h.1, run_readerCall, ColumnType.readEach]
    simp only [map_eq_pure_bind, bind_assoc, pure_bind, List.map_cons, List.zip_cons_cons]

def inReadingOrder (s : Schema) (key : Field) : List Field := key :: s.dataFields

/-- The names that the reader assigns, in its order. -/
def assignedNames (s : Schema) : List String := "id" :: s.dataFields.map Field.ident

lemma readRecord_assignments (space : String) (s : Schema) (key : Field) :
    readRecord (readerAssignments space s key) = (fun values => (assignedNames s).zip values) <$>
      ColumnType.readEach ((inReadingOrder s key).map Field.type) := by
  have hcalls : (readerAssignments space s key).map Assignment.call =
      ((inReadingOrder s key).map Field.type).map (ReaderCall.ofType space) := by
    simp [readerAssignments, RowType.assignments, inReadingOrder]
  have hnames : (readerAssignments space s key).map Assignment.ident = assignedNames s := by
    simp [readerAssignments, RowType.assignments, assignedNames]
  rw [readRecord_eq hcalls, hnames]

/-- The record of a row: each name that is assigned, with the value of its field. -/
def recordOf (s : Schema) (key : Field) (value : Field → Value) : List (String × Value) :=
  ("id", value key) :: s.dataFields.map fun f => (f.ident, value f)

lemma zip_assignedNames (s : Schema) (key : Field) (value : Field → Value) :
    (assignedNames s).zip ((inReadingOrder s key).map value) = recordOf s key value := by
  rw [assignedNames, inReadingOrder, List.map_cons, List.zip_cons_cons, List.zip_map', recordOf]

/-- What the emitted reader takes for the record of some values condenses to the bytes of these
values in its order. -/
lemma takes_record (space : String) (s : Schema) (key : Field) :
    Takes (readRecord (readerAssignments space s key)) (fun record taken =>
      ∀ value piece, (∀ f ∈ inReadingOrder s key, f.type.encode (value f) = .ok (piece f)) →
        record = recordOf s key value → Condenses taken ((inReadingOrder s key).flatMap piece)) := by
  rw [readRecord_assignments]
  apply takes_map _ (takes_readEach _)
  rintro values taken ⟨least, hlength, hleast, hcondenses, -⟩ value piece hencode hrecord
  rw [← zip_assignedNames] at hrecord
  have hnames : (assignedNames s).length = (inReadingOrder s key).length := by
    simp [assignedNames, inReadingOrder]
  have hvalues := congrArg (List.map Prod.snd) hrecord
  rw [List.map_snd_zip (by simp [hlength, hnames]), List.map_snd_zip (by simp [hnames])] at hvalues
  rw [hvalues, encodeEach_map hencode, Except.ok.injEq] at hleast
  rw [hleast]
  exact hcondenses

/-! ### Agreement with the emitted parser of text -/

/-- Whether a record is what the emitted calls for text give on a line, each for the name that is
assigned. -/
def Agrees (calls : List (Assignment TextCall)) (trimChars : List Char) (line : String)
    (record : List (String × Value)) : Prop :=
  List.Forall₂ (fun a entry => entry.1 = a.ident ∧
    ∃ next, a.call.run (RowFields.ofLine line trimChars) = .ok entry.2 next) calls record

/-- Whether the emitted reader takes the bytes to their end, one record for each content row, and
gives what the emitted parser of text gives on the line of that row. -/
def ReadsBack (space : String) (s : Schema) (key : Field) (trimChars : List Char)
    (lines : List String) (content : List Nat) (bytes : List UInt8) : Prop :=
  ∃ records, readRows (readRecord (readerAssignments space s key)) bytes = .ok records ∧
    List.Forall₂ (fun r record => ∃ line, lines[r]? = some line ∧
      Agrees (textAssignments space s key) trimChars line record) content records

lemma entry_iff {call : TextCall} {trimChars : List Char} {line name : String} {v : Value}
    (h : Scans call.run (lineCells trimChars line) v) (entry : String × Value) :
    (entry.1 = name ∧ ∃ next, call.run (RowFields.ofLine line trimChars) = .ok entry.2 next) ↔
      entry = (name, v) := by
  obtain ⟨next, hnext⟩ := h 0
  rw [RowFields.ofLine, hnext, Prod.ext_iff]
  simp only [EStateM.Result.ok.injEq, exists_and_left, exists_eq', and_true, eq_comm (a := v)]

/-- On a line whose cells have these values, the emitted calls for text give the record of the
values and no other. -/
lemma agrees_iff {space : String} {trimChars : List Char} {line : String} {value : Field → Value}
    {record : List (String × Value)}
    (h : ∀ f ∈ inReadingOrder s key, ∃ text, (lineCells trimChars line)[f.column]? = some text ∧
      f.type.parse text = .ok (value f)) :
    Agrees (textAssignments space s key) trimChars line record ↔ record = recordOf s key value := by
  have hscans : ∀ f ∈ inReadingOrder s key,
      Scans (TextCall.ofType space f.column f.type).run (lineCells trimChars line) (value f) := by
    intro f hf
    obtain ⟨text, htext, hv⟩ := h f hf
    exact scans_call htext hv
  have hdata : ∀ rest : List (String × Value),
      List.Forall₂ (fun f entry => entry.1 = f.ident ∧
        ∃ next, (TextCall.ofType space f.column f.type).run (RowFields.ofLine line trimChars) =
          .ok entry.2 next) s.dataFields rest ↔
      rest = s.dataFields.map fun f => (f.ident, value f) := fun rest =>
    forall₂_iff_eq_map fun f hf => entry_iff (hscans f (List.mem_cons_of_mem key hf))
  unfold Agrees textAssignments RowType.assignments recordOf
  rw [List.forall₂_cons_left_iff]
  simp only [List.forall₂_map_left_iff, entry_iff (hscans key List.mem_cons_self), hdata]
  constructor
  · rintro ⟨_, _, rfl, rfl, rfl⟩
    rfl
  · rintro rfl
    exact ⟨_, _, rfl, rfl, rfl⟩

lemma flatMap_inj {α β : Type} {g g' : α → List β} {l : List α}
    (hlength : ∀ x ∈ l, (g x).length = (g' x).length) (h : l.flatMap g = l.flatMap g') :
    ∀ x ∈ l, g x = g' x := by
  induction l with
  | nil => simp
  | cons x rest ih =>
    rw [List.flatMap_cons, List.flatMap_cons] at h
    obtain ⟨hfirst, hrest⟩ := List.append_inj h (hlength x List.mem_cons_self)
    intro y hy
    rcases List.mem_cons.mp hy with rfl | hy
    · exact hfirst
    · exact ih (fun z hz => hlength z (List.mem_cons_of_mem x hz)) hrest y hy

lemma inReadingOrder_perm (hs : t.schema = .ok s) (hkey : key ∈ s.fields) (hrole : key.role = .id) :
    (inReadingOrder s key).Perm s.fields := by
  obtain ⟨right, hfields, hdata⟩ := exists_right hs hkey hrole
  rw [inReadingOrder, hdata, hfields]
  exact List.perm_middle.symm

/-- The emitted reader gives the records of the written values exactly if in every row its order
gives the bytes that were written. -/
lemma readsBack_iff_bytes {space : String} {trimChars : List Char} {lines : List String}
    (hs : t.schema = .ok s) (hcontent : t.sheet.contentRows = .ok content)
    (hrows : t.grid.rows = lines.map (lineCells trimChars))
    (hwritten : Written t s content value piece) (hshort : HasShortCells t) (hkey : key ∈ s.fields)
    (hrole : key.role = .id) (hint : key.type = .builtin .int32) :
    ReadsBack space s key trimChars lines content
        (content.flatMap fun r => s.fields.flatMap (piece r)) ↔
      ∀ r ∈ content,
        (inReadingOrder s key).flatMap (piece r) = s.fields.flatMap (piece r) := by
  have hperm := inReadingOrder_perm hs hkey hrole
  have hline : ∀ r ∈ content, ∃ line, lines[r]? = some line ∧ ∀ record,
      Agrees (textAssignments space s key) trimChars line record ↔
        record = recordOf s key (value r) := by
    intro r hr
    obtain ⟨line, hline, hcells⟩ := exists_line hrows hwritten hr hkey
    exact ⟨line, hline, fun record => agrees_iff fun f hf => hcells f (hperm.subset hf)⟩
  have hrecords : ∀ records : List (List (String × Value)),
      List.Forall₂ (fun r record => ∃ line, lines[r]? = some line ∧
        Agrees (textAssignments space s key) trimChars line record) content records ↔
      records = content.map fun r => recordOf s key (value r) := by
    intro records
    apply forall₂_iff_eq_map
    intro r hr record
    obtain ⟨line, hline, hagrees⟩ := hline r hr
    simp only [hline, Option.some.injEq, exists_eq_left', hagrees]
  unfold ReadsBack
  simp only [hrecords, exists_eq_right]
  constructor
  · intro hread
    -- the records condense to the bytes of the reader's order, which weigh as much as all bytes
    obtain ⟨parts, hparts, hforms⟩ :=
      exists_records_of_readRowsFrom (fun _ => takes_record space s key) hread
    rw [List.forall₂_map_left_iff] at hforms
    have hcondenses : Condenses parts.flatten
        (content.flatMap fun r => (inReadingOrder s key).flatMap (piece r)) := by
      apply condenses_flatten
      refine (List.forall₂_and_left (p := (· ∈ content)) content parts).mpr
        ⟨fun _ hr => hr, hforms⟩ |>.imp ?_
      rintro r part ⟨hr, hform⟩
      exact hform (value r) (piece r) (fun f hf => hwritten.encode r hr f (hperm.subset hf)) rfl
    change (content.flatMap fun r => s.fields.flatMap (piece r)) = parts.flatten at hparts
    rw [← hparts] at hcondenses
    have hweight : weight (content.flatMap fun r => (inReadingOrder s key).flatMap (piece r)) =
        weight (content.flatMap fun r => s.fields.flatMap (piece r)) :=
      weight_flatMap_congr fun r _ => weight_flatMap_perm hperm (piece r)
    refine flatMap_inj ?_ (hcondenses.eq_of_weight hweight)
    intro r _
    exact (hperm.flatMap_right (piece r)).length_eq
  · intro hsame
    have hbytes : (content.flatMap fun r => s.fields.flatMap (piece r)) =
        content.flatMap fun r => (inReadingOrder s key).flatMap (piece r) :=
      List.flatMap_congr fun r hr => (hsame r hr).symm
    rw [hbytes, List.flatMap_def]
    refine readRowsFrom_flatten ?_ 0 0
    rw [List.forall₂_map_left_iff, List.forall₂_map_right_iff]
    apply List.forall₂_same.mpr
    intro r hr
    refine ⟨flatMap_piece_ne_nil hwritten hr hkey hint List.mem_cons_self, fun _ => ?_⟩
    rw [readRecord_assignments, ← zip_assignedNames]
    exact reads_map _ (reads_fields hs hcontent hwritten hshort hr hperm.subset)

/-- With nothing left of it, the key commutes wherever it can be written. -/
lemma keyCommutes_of_leftOf_eq_nil (hleft : leftOf s key = []) {r : Nat} {own : List UInt8}
    (hown : t.encodeCell r key = .ok own) : KeyCommutes t s key r :=
  ⟨[], own, by rw [hleft]; rfl, hown, by simp⟩

variable {source : String} {trimChars : List Char} {layout : DataTableLayout} {types : Registry}

lemma readsBack_iff (h : DataTable.ofSource source trimChars layout types = .ok t)
    (hbytes : t.encodeRows = .ok bytes) (hshort : HasShortCells t) (space : String)
    (hs : t.schema = .ok s) (hfind : s.idField? = some key)
    (hcontent : t.sheet.contentRows = .ok content) :
    (ReadsBack space s key trimChars (sourceLines source) content bytes ↔
      ∀ r ∈ content, KeyCommutes t s key r) ∧
    ∀ r ∈ content, ∃ own, t.encodeCell r key = .ok own := by
  obtain ⟨s', content', value, piece, hs', hcontent', hwritten, rfl⟩ := exists_written hbytes
  obtain rfl : s = s' := Except.ok.inj (hs.symm.trans hs')
  obtain rfl : content = content' := Except.ok.inj (hcontent.symm.trans hcontent')
  obtain ⟨hrows, haccepted⟩ := rows_ofSource h
  obtain ⟨key', hfind', hkey, hrole, -, hint⟩ := exists_key haccepted hs
  obtain rfl : key = key' := Option.some.inj (hfind.symm.trans hfind')
  refine ⟨?_, fun r hr => ⟨piece r key, encodeCell_of_written hwritten hr hkey⟩⟩
  rw [readsBack_iff_bytes hs hcontent hrows hwritten hshort hkey hrole hint]
  apply forall₂_congr
  intro r hr
  exact (keyCommutes_iff hs hkey hrole hwritten hr).symm

/-- For an accepted table that can be written, the emitted reader reads back what was written
exactly if the key commutes in every content row. So it does if no data stands left of the key. -/
theorem readsBack_iff_keyCommutes (h : DataTable.ofSource source trimChars layout types = .ok t)
    (hbytes : t.encodeRows = .ok bytes) (hshort : HasShortCells t) (space : String) :
    ∃ s key content, t.schema = .ok s ∧ s.idField? = some key ∧
      t.sheet.contentRows = .ok content ∧
      (ReadsBack space s key trimChars (sourceLines source) content bytes ↔
        ∀ r ∈ content, KeyCommutes t s key r) ∧
      (leftOf s key = [] →
        ReadsBack space s key trimChars (sourceLines source) content bytes) := by
  obtain ⟨s, content, _, _, hs, hcontent, -, -⟩ := exists_written hbytes
  obtain ⟨key, hfind, -⟩ := exists_key (rows_ofSource h).2 hs
  obtain ⟨hiff, hown⟩ := readsBack_iff h hbytes hshort space hs hfind hcontent
  refine ⟨s, key, content, hs, hfind, hcontent, hiff, ?_⟩
  intro hleft
  apply hiff.mpr
  intro r hr
  obtain ⟨own, hcell⟩ := hown r hr
  exact keyCommutes_of_leftOf_eq_nil hleft hcell

/-- A source whose first column holds data, with the key next to it. -/
def levels : String := "\t\nLevel\tid\nbyte\tint\n\t\n5\t7\n"

theorem readsBack_iff_keyCommutes_levels : ∃ t bytes,
    DataTable.ofSource levels ['"'] {} Registry.standard = .ok t ∧ t.encodeRows = .ok bytes ∧
      HasShortCells t ∧
      ∃ s key content, t.schema = .ok s ∧ s.idField? = some key ∧
        t.sheet.contentRows = .ok content ∧
        (ReadsBack "tablegen::runtime" s key ['"'] (sourceLines levels) content bytes ↔
          ∀ r ∈ content, KeyCommutes t s key r) ∧
        (leftOf s key = [] →
          ReadsBack "tablegen::runtime" s key ['"'] (sourceLines levels) content bytes) := by
  have hencoded : ((DataTable.ofSource levels ['"'] {} Registry.standard).bind
      DataTable.encodeRows).toOption = some [5, 7] := by
    decide +kernel
  obtain ⟨t, ht, hbytes⟩ := bind_eq_ok.mp (toOption_eq_some.mp hencoded)
  have hlength : (Wire.utf8 levels).length < Wire.lengthModulus := by decide +kernel
  have hshort := hasShortCells_of_isShort ht hlength
  exact ⟨t, _, ht, hbytes, hshort, readsBack_iff_keyCommutes ht hbytes hshort _⟩

/-- What decides about the row with a given number: the bytes left of the key, those of the key, and
the content rows. -/
def keyBytes (t : DataTable) (s : Schema) (key : Field) (r : Nat) :
    Except TableError (List (List UInt8) × List UInt8 × List Nat) := do
  return (← (leftOf s key).mapM (t.encodeCell r), ← t.encodeCell r key, ← t.sheet.contentRows)

/-- With data left of the key, the emitted reader takes the level for the key. -/
theorem not_readsBack_levels : ∃ t s key content,
    DataTable.ofSource levels ['"'] {} Registry.standard = .ok t ∧ t.encodeRows = .ok [5, 7] ∧
      HasShortCells t ∧ t.schema = .ok s ∧ s.idField? = some key ∧
      t.sheet.contentRows = .ok content ∧
      ¬ReadsBack "tablegen::runtime" s key ['"'] (sourceLines levels) content [5, 7] := by
  have hfound : ((DataTable.ofSource levels ['"'] {} Registry.standard).bind fun t =>
      t.encodeRows.bind fun bytes => t.schema.bind fun s =>
        s.idField?.elim (.error (.configuration .noIdColumn)) fun key =>
          (keyBytes t s key 4).map fun found => (bytes, found)).toOption =
            some ([5, 7], [[5]], [7], [4]) := by
    decide +kernel
  obtain ⟨t, ht, hfound⟩ := bind_eq_ok.mp (toOption_eq_some.mp hfound)
  obtain ⟨bytes, hbytes, hfound⟩ := bind_eq_ok.mp hfound
  obtain ⟨s, hs, hfound⟩ := bind_eq_ok.mp hfound
  have hlength : (Wire.utf8 levels).length < Wire.lengthModulus := by decide +kernel
  have hshort := hasShortCells_of_isShort ht hlength
  cases hfind : s.idField? with
  | none => simp [hfind] at hfound
  | some key =>
    rw [hfind, Option.elim_some] at hfound
    obtain ⟨found, hkey, hfound⟩ := map_eq_ok.mp hfound
    obtain ⟨left, hleft, hkey⟩ := bind_eq_ok.mp hkey
    obtain ⟨own, hown, hkey⟩ := bind_eq_ok.mp hkey
    obtain ⟨content, hcontent, hkey⟩ := bind_eq_ok.mp hkey
    obtain rfl := pure_eq_ok.mp hkey
    simp only [Prod.mk.injEq] at hfound
    obtain ⟨rfl, rfl, rfl, rfl⟩ := hfound
    refine ⟨t, s, key, [4], ht, hbytes, hshort, hs, hfind, hcontent, ?_⟩
    rw [(readsBack_iff ht hbytes hshort _ hs hfind hcontent).1]
    intro hcommutes
    obtain ⟨left, own, hleft', hown', hsame⟩ := hcommutes 4 List.mem_cons_self
    obtain rfl : [[5]] = left := Except.ok.inj (hleft.symm.trans hleft')
    obtain rfl : [7] = own := Except.ok.inj (hown.symm.trans hown')
    exact absurd hsame (by decide)

end TypedTables.Proofs
