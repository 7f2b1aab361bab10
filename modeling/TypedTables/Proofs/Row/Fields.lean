import TypedTables.RowType
import TypedTables.Proofs.Result

/-!
# What a scan gives

Every scan of a field sets the cursor first, so what it gives depends on the cells of the line
alone, and a line is read field by field wherever the cursor stands in between. `Scans m cells v`
says that `m` gives `v` on these cells, wherever the cursor stands.
-/

namespace TypedTables

/-- What the cells of a line have in the place of a field. -/
def Field.ofCells (cells : List String) (f : Field) : Except RowError Value :=
  match cells[f.column]? with
  | some text => (f.type.parse text).mapError (RowError.conversion f.column)
  | none => .error (.malformed (.missingField cells.length))

namespace Proofs

variable {α : Type} {cells : List String}

/-! ### Lines -/

lemma run_scanField (cells : List String) (f : Field) (next : Nat) : ∃ next',
    Schema.scanField f ⟨cells, next⟩ = Scan.ofExcept (f.ofCells cells) ⟨cells, next'⟩ := by
  cases htext : cells[f.column]? with
  | none =>
    refine ⟨f.column, ?_⟩
    simp [Schema.scanField, bind, EStateM.bind, Scan.seek, Scan.field, Scan.ofExcept, Field.ofCells,
      htext]
  | some text =>
    refine ⟨f.column + 1, ?_⟩
    simp [Schema.scanField, bind, EStateM.bind, Scan.seek, Scan.field, Field.ofCells, htext]

lemma run_mapM_scanField (cells : List String) (fields : List Field) (next : Nat) : ∃ next',
    fields.mapM Schema.scanField ⟨cells, next⟩ =
      Scan.ofExcept (fields.mapM (Field.ofCells cells)) ⟨cells, next'⟩ := by
  induction fields generalizing next with
  | nil => exact ⟨next, rfl⟩
  | cons f rest ih =>
    rw [List.mapM_cons, List.mapM_cons]
    obtain ⟨between, hfirst⟩ := run_scanField cells f next
    obtain ⟨next', hrest⟩ := ih between
    change ∃ next', EStateM.bind _ _ _ = _
    rw [EStateM.bind, hfirst]
    cases f.ofCells cells with
    | error e => exact ⟨between, rfl⟩
    | ok v =>
      refine ⟨next', ?_⟩
      change EStateM.bind _ _ _ = _
      rw [EStateM.bind, hrest]
      cases rest.mapM (Field.ofCells cells) <;> rfl

/-- A line is read field by field from its cells. -/
theorem parseLine_eq_mapM (s : Schema) (trimChars : List Char) (line : String) :
    s.parseLine trimChars line = s.fields.mapM (Field.ofCells (lineCells trimChars line)) := by
  obtain ⟨next', hnext'⟩ := run_mapM_scanField (lineCells trimChars line) s.fields 0
  unfold Schema.parseLine EStateM.run RowFields.ofLine
  rw [hnext']
  cases s.fields.mapM (Field.ofCells (lineCells trimChars line)) <;> rfl

/-! ### Emitted calls -/

/-- The scan gives `v` on these cells, wherever the cursor stands. -/
def Scans (m : Scan α) (cells : List String) (v : α) : Prop :=
  ∀ next, ∃ next', m ⟨cells, next⟩ = .ok v ⟨cells, next'⟩

variable {text : String} {v : Value}

/-- The emitted call for a column gives the value of its cell. -/
lemma scans_call {space : String} {column : Nat} {type : ColumnType}
    (htext : cells[column]? = some text) (hv : type.parse text = .ok v) :
    Scans (TextCall.ofType space column type).run cells v := by
  intro next
  refine ⟨column + 1, ?_⟩
  cases type with
  | builtin b =>
    rw [ColumnType.parse] at hv
    simp [TextCall.ofType, TextCall.run, bind, EStateM.bind, Scan.seek, Scan.position, Scan.field,
      Scan.ofExcept, htext, hv, Except.mapError]
  | custom name typeText copies components =>
    simp [TextCall.ofType, TextCall.run, bind, EStateM.bind, Scan.seek, Scan.cellWith,
      Scan.position, Scan.field, Scan.ofExcept, htext, hv, Except.mapError]

end Proofs

end TypedTables
