import TypedTables.Proofs.ColumnType.Closed
import TypedTables.Proofs.ColumnType.Form
import TypedTables.Proofs.Wire.Least

/-!
# Pieces of records

The bytes of a value are cut into pieces, one for each scalar that its type is made of. They are the
bytes that would be written exactly if every piece is in its least form.
-/

namespace TypedTables

mutual

/-- The scalars that a type is made of, in the order of their bytes. -/
def ColumnType.scalars : ColumnType → List Builtin
  | .builtin b => [b]
  | .custom _ _ _ components => scalarsEach components

def ColumnType.scalarsEach : List ColumnType → List Builtin
  | [] => []
  | t :: types => scalars t ++ scalarsEach types

end

namespace Proofs

/-- Whether bytes of a scalar are in their least form: numbers, and the lengths of strings, in as few
groups as their value allows, and truth values as zero or one. -/
def IsLeast : Builtin → List UInt8 → Prop
  | .bool, bytes => bytes = [0] ∨ bytes = [1]
  | .byte, _ | .sbyte, _ | .float, _ | .double, _ => True
  | .string, bytes => IsShortest (leadingGroups bytes)
  | _, bytes => IsShortest bytes

/-- The one way of cutting bytes into pieces that are read as the given scalars. -/
structure IsCut (kinds : List Builtin) (bytes : List UInt8)
    (pieces : List (Builtin × List UInt8)) : Prop where
  kinds_eq : pieces.map Prod.fst = kinds
  bytes_eq : pieces.flatMap Prod.snd = bytes
  reads : ∀ piece ∈ pieces, ∃ v, Reads piece.1.read piece.2 v

lemma isLocal_closed : ReadClosed fun _ => IsLocal where
  pure := isLocal_pure
  bind := isLocal_bind
  byte := isLocal_byte
  bytes := isLocal_bytes
  text := isLocal_text
  integerOverflow _ := isLocal_malformed _
  tooManyGroups _ := isLocal_malformed _

lemma takes_least (b : Builtin) : Takes b.read (fun v taken =>
    ∀ least, b.encode? v = some least → (least = taken ↔ IsLeast b taken)) := by
  cases b
  all_goals
    refine takes_map _ LeastWire.takes fun v taken h least hleast => ?_
    obtain rfl := Option.some.inj hleast
    exact h

/-! ### Cutting -/

lemma isCut_nil : IsCut [] [] [] := ⟨rfl, rfl, fun _ h => absurd h List.not_mem_nil⟩

lemma isCut_append {kinds kinds' : List Builtin} {bytes bytes' : List UInt8}
    {pieces pieces' : List (Builtin × List UInt8)} (h : IsCut kinds bytes pieces)
    (h' : IsCut kinds' bytes' pieces') :
    IsCut (kinds ++ kinds') (bytes ++ bytes') (pieces ++ pieces') := by
  refine ⟨?_, ?_, ?_⟩
  · rw [List.map_append, h.kinds_eq, h'.kinds_eq]
  · rw [List.flatMap_append, h.bytes_eq, h'.bytes_eq]
  · intro piece hpiece
    rcases List.mem_append.mp hpiece with hfirst | hsecond
    · exact h.reads piece hfirst
    · exact h'.reads piece hsecond

lemma reads_unique {α : Type} {m : Read α} {bytes bytes' rest rest' : List UInt8} {v v' : α}
    (h : Reads m bytes v) (h' : Reads m bytes' v') (hsame : bytes ++ rest = bytes' ++ rest') :
    bytes = bytes' ∧ rest = rest' := by
  have hread := h 0 rest
  rw [hsame, h' 0 rest'] at hread
  injection hread with _ hnext
  injection hnext with _ hrest
  subst hrest
  exact ⟨List.append_cancel_right hsame, rfl⟩

theorem isCut_unique {kinds : List Builtin} {bytes : List UInt8}
    {pieces pieces' : List (Builtin × List UInt8)} (h : IsCut kinds bytes pieces)
    (h' : IsCut kinds bytes pieces') : pieces = pieces' := by
  induction pieces generalizing kinds bytes pieces' with
  | nil =>
    obtain rfl : [] = kinds := h.kinds_eq
    exact (List.map_eq_nil_iff.mp h'.kinds_eq).symm
  | cons piece rest ih =>
    obtain ⟨kind, taken⟩ := piece
    obtain rfl : kind :: rest.map Prod.fst = kinds := h.kinds_eq
    obtain ⟨⟨kind', taken'⟩, rest', rfl, hkind, hkinds⟩ := List.map_eq_cons_iff.mp h'.kinds_eq
    obtain rfl : kind' = kind := hkind
    have hbytes := h.bytes_eq.trans h'.bytes_eq.symm
    rw [List.flatMap_cons, List.flatMap_cons] at hbytes
    obtain ⟨v, hv⟩ := h.reads _ List.mem_cons_self
    obtain ⟨v', hv'⟩ := h'.reads _ List.mem_cons_self
    obtain ⟨htaken, hrest⟩ := reads_unique hv hv' hbytes
    obtain rfl : taken = taken' := htaken
    rw [ih ⟨rfl, rfl, fun p hp => h.reads p (List.mem_cons_of_mem _ hp)⟩
      ⟨hkinds, hrest.symm, fun p hp => h'.reads p (List.mem_cons_of_mem _ hp)⟩]

/-! ### The least form of a value -/

/-- The second run of bytes is what is written for what was read from the first: it is no longer,
and the same exactly if every piece of the first is in its least form. -/
structure Shortens (kinds : List Builtin) (taken least : List UInt8) : Prop where
  length_le : least.length ≤ taken.length
  eq_iff : ∃ pieces, IsCut kinds taken pieces ∧ (least = taken ↔ ∀ p ∈ pieces, IsLeast p.1 p.2)

lemma shortens_nil : Shortens [] [] [] :=
  ⟨le_rfl, [], isCut_nil, by simp⟩

lemma shortens_append {kinds kinds' : List Builtin} {taken taken' least least' : List UInt8}
    (h : Shortens kinds taken least) (h' : Shortens kinds' taken' least') :
    Shortens (kinds ++ kinds') (taken ++ taken') (least ++ least') := by
  obtain ⟨hlength, pieces, hcut, heq⟩ := h
  obtain ⟨hlength', pieces', hcut', heq'⟩ := h'
  refine ⟨by simp only [List.length_append]; omega, pieces ++ pieces', isCut_append hcut hcut', ?_⟩
  rw [List.forall_mem_append, ← heq, ← heq']
  constructor
  -- Neither half is longer than what was taken, so both have its length and are cut at one place.
  · intro hsame
    have htotal := congrArg List.length hsame
    simp only [List.length_append] at htotal
    exact List.append_inj hsame (by omega)
  · rintro ⟨rfl, rfl⟩
    rfl

lemma shortens_builtin (b : Builtin) : Takes b.read (fun v taken =>
    ∀ least, b.encode? v = some least → Shortens [b] taken least) := by
  refine takes_mono (takes_and (takes_and (isLocal_closed.builtin b) (takes_least b)) (takes_builtin b)) ?_
  rintro v taken ⟨⟨hreads, hleast⟩, least, hencode, hcondenses, -⟩ least' hencode'
  obtain rfl : least = least' := Option.some.inj (hencode.symm.trans hencode')
  refine ⟨hcondenses.length_le, [(b, taken)], ⟨rfl, by simp, ?_⟩, ?_⟩
  · simpa using ⟨v, hreads⟩
  · simpa using hleast least hencode

mutual

theorem shortens_read : ∀ t : ColumnType, Takes t.read (fun v taken =>
    ∀ least, t.encode v = .ok least → Shortens t.scalars taken least)
  | .builtin b => by
    rw [ColumnType.read]
    apply takes_mono (shortens_builtin b)
    intro v taken h least hleast
    rw [ColumnType.encode] at hleast
    split at hleast
    · next found hfound =>
      obtain rfl := Except.ok.inj hleast
      exact h found hfound
    · cases hleast
  | .custom name typeText copies components => by
    rw [ColumnType.read]
    apply takes_map Value.composite (shortens_readEach components)
    intro parts taken h least hleast
    rw [ColumnType.encode] at hleast
    split at hleast
    · exact h least hleast
    · cases hleast

theorem shortens_readEach : ∀ types : List ColumnType, Takes (ColumnType.readEach types)
    (fun values taken => ∀ least, ColumnType.encodeEach types values = .ok least →
      Shortens (ColumnType.scalarsEach types) taken least)
  | [] => by
    rw [ColumnType.readEach]
    apply takes_mono (takes_pure _)
    rintro values taken ⟨rfl, rfl⟩ least hleast
    obtain rfl : [] = least := pure_eq_ok.mp hleast
    exact shortens_nil
  | t :: types => by
    rw [ColumnType.readEach]
    refine takes_mono (takes_bind (shortens_read t) (fun v =>
      takes_bind (shortens_readEach types) (fun rest => takes_pure (v :: rest)))) ?_
    rintro values taken ⟨v, first, second, rfl, hfirst, rest, third, fourth, rfl, hrest, rfl, rfl⟩
      least hleast
    rw [ColumnType.encodeEach, bind_eq_ok] at hleast
    obtain ⟨bytes, hbytes, h⟩ := hleast
    obtain ⟨bytes', hbytes', h⟩ := bind_eq_ok.mp h
    obtain rfl := pure_eq_ok.mp h
    rw [List.append_nil]
    exact shortens_append (hfirst bytes hbytes) (hrest bytes' hbytes')

end

end Proofs

end TypedTables
