import TypedTables.Proofs.ColumnType.Least
import TypedTables.Proofs.ColumnType.Shape
import TypedTables.Proofs.Row.Hero
import TypedTables.RowType

/-!
# Requests to a reader

A reader serves one request after the other, and goes on after one that fails from where that gave
up. Main statement: wherever it comes to in some bytes, it stands within them and what is left is
what lies behind its position. So the position only grows, and no more than the bytes allow.
-/

namespace TypedTables

/-- What can be asked of a reader: one of its own methods, or one of the composites. -/
inductive Request where
  | method (m : ReaderMethod)
  | vector2
  | vector3
  | vector4
  | color
  | color32
deriving DecidableEq, Repr

namespace Request

def Answer : Request → Type
  | method _ => Value
  | vector2 => Vector2
  | vector3 => Vector3
  | vector4 => Vector4
  | color => Color
  | color32 => Color32

def read : (q : Request) → Read q.Answer
  | method m => m.run
  | vector2 => Vector2.read
  | vector3 => Vector3.read
  | vector4 => Vector4.read
  | color => Color.read
  | color32 => Color32.read

end Request

namespace Reader

/-- Where a reading leaves the reader, whether it succeeds or not. -/
def behind {α : Type} (r : Reader) (m : Read α) : Reader :=
  match m r with
  | .ok _ next => next
  | .error _ next => next

/-- The reader after requests of which each is made where the one before has left it. -/
def after (r : Reader) (requests : List Request) : Reader :=
  requests.foldl (fun r q => r.behind q.read) r

/-- What holds of a reader that has come to some place in bytes. -/
structure IsSteady (bytes : List UInt8) (r : Reader) : Prop where
  le_length : r.position ≤ bytes.length
  rest_eq : r.rest = bytes.drop r.position
  /-- The length less the position is what is left, and nothing is cut off by the subtraction. -/
  position_add_length : r.position + r.rest.length = bytes.length
  position_le_behind : ∀ q : Request, r.position ≤ (r.behind q.read).position
  /-- A success takes one byte at least, and the bytes that it takes decide it: any other reader
  with these bytes in front of it gives the same answer and takes as many. -/
  ok : ∀ (q : Request) v next, q.read r = .ok v next → r.position < next.position ∧
    ∀ other : Reader, (bytes.drop r.position).take (next.position - r.position) <+: other.rest →
      q.read other = .ok v (other.advance (next.position - r.position))
  error_of_atEnd : r.position = bytes.length → ∀ q : Request, q.read r = .error .endOfInput r

end Reader

namespace Proofs

open RowType (readRecord)

variable {α β : Type} {bytes : List UInt8}

/-- Whether a reading moves the reader on within its bytes, also when it fails. -/
def StaysWithin (m : Read α) : Prop :=
  ∀ r : Reader, ∃ n ≤ r.rest.length, r.behind m = r.advance n

lemma advance_advance (r : Reader) (m n : Nat) : (r.advance m).advance n = r.advance (m + n) := by
  simp [Reader.advance, Nat.add_assoc]

lemma staysWithin_pure (v : α) : StaysWithin (pure v) := fun _ => ⟨0, Nat.zero_le _, rfl⟩

lemma staysWithin_bind {m : Read α} {f : α → Read β} (hm : StaysWithin m)
    (hf : ∀ v, StaysWithin (f v)) : StaysWithin (m >>= f) := by
  intro r
  obtain ⟨k, hk, hbehind⟩ := hm r
  have hbind : r.behind (m >>= f) =
      match m r with
      | .ok v next => next.behind (f v)
      | .error _ next => next := by
    change (match EStateM.bind m f r with | .ok _ next => next | .error _ next => next) = _
    rw [EStateM.bind]
    cases m r <;> rfl
  unfold Reader.behind at hbehind
  rw [hbind]
  cases hfirst : m r with
  | error e next =>
    rw [hfirst] at hbehind
    exact ⟨k, hk, hbehind⟩
  | ok v next =>
    rw [hfirst] at hbehind
    obtain rfl : next = r.advance k := hbehind
    obtain ⟨n, hn, hlater⟩ := hf v (r.advance k)
    refine ⟨k + n, ?_, hlater.trans (advance_advance r k n)⟩
    simp only [Reader.advance, List.length_drop] at hn
    omega

lemma staysWithin_malformed (cause : Nat → Malformation) :
    StaysWithin (Read.malformed cause : Read α) := fun _ => ⟨0, Nat.zero_le _, rfl⟩

lemma staysWithin_byte : StaysWithin Read.byte := by
  intro r
  unfold Reader.behind Read.byte
  cases hrest : r.rest with
  | nil => exact ⟨0, Nat.zero_le _, rfl⟩
  | cons b rest => exact ⟨1, by simp, rfl⟩

lemma staysWithin_bytes (n : Nat) : StaysWithin (Read.bytes n) := by
  intro r
  unfold Reader.behind Read.bytes
  by_cases h : n ≤ r.rest.length
  · exact ⟨n, h, by rw [if_pos h]⟩
  · exact ⟨r.rest.length, le_rfl, by rw [if_neg h]⟩

lemma staysWithin_text (n : Nat) : StaysWithin (Wire.readText n) := by
  intro r
  unfold Reader.behind Wire.readText
  by_cases h : n ≤ r.rest.length
  · refine ⟨n, h, ?_⟩
    rw [if_pos h]
    cases Wire.ofUtf8? (r.rest.take n) <;> rfl
  · exact ⟨0, Nat.zero_le _, by rw [if_neg h]; rfl⟩

lemma staysWithin_closed : ReadClosed fun _ => StaysWithin where
  pure := staysWithin_pure
  bind := staysWithin_bind
  byte := staysWithin_byte
  bytes := staysWithin_bytes
  text := staysWithin_text
  integerOverflow _ := staysWithin_malformed _
  tooManyGroups _ := staysWithin_malformed _

/-! ### Requests -/

section Closed

variable {P : ∀ α : Type, Read α → Prop}

lemma ReadClosed.method (h : ReadClosed P) (m : ReaderMethod) : P Value m.run := by
  cases m with
  | bool => exact h.builtin .bool
  | u8 => exact h.builtin .byte
  | i8 => exact h.builtin .sbyte
  | varI16 => exact h.builtin .int16
  | varU16 => exact h.builtin .uint16
  | varI32 => exact h.builtin .int32
  | varU32 => exact h.builtin .uint32
  | varI64 => exact h.builtin .int64
  | varU64 => exact h.builtin .uint64
  | f32 => exact h.builtin .float
  | f64 => exact h.builtin .double
  | string => exact h.builtin .string

lemma ReadClosed.request (h : ReadClosed P) (q : Request) : P q.Answer q.read := by
  have hsingle : P Single Wire.read := h.bind (h.bytes 4) fun _ => h.pure _
  cases q with
  | method m => exact h.method m
  | vector2 => exact h.bind hsingle fun _ => h.bind hsingle fun _ => h.pure _
  | vector3 =>
    exact h.bind hsingle fun _ => h.bind hsingle fun _ => h.bind hsingle fun _ => h.pure _
  | vector4 | color =>
    exact h.bind hsingle fun _ => h.bind hsingle fun _ => h.bind hsingle fun _ =>
      h.bind hsingle fun _ => h.pure _
  | color32 =>
    exact h.bind h.byte fun _ => h.bind h.byte fun _ => h.bind h.byte fun _ =>
      h.bind h.byte fun _ => h.pure _

lemma ReadClosed.call (h : ReadClosed P) (call : ReaderCall) : P Value call.run := by
  cases call with
  | method m => exact h.method m
  | function space name components => exact h.map Value.composite (h.readEach components)

lemma ReadClosed.readRecord (h : ReadClosed P) (calls : List (Assignment ReaderCall)) :
    P (List (String × Value)) (RowType.readRecord calls) := by
  unfold RowType.readRecord
  induction calls with
  | nil => exact h.pure []
  | cons a calls ih =>
    rw [List.mapM_cons]
    exact h.bind (h.bind (h.call a.call) fun v => h.pure (a.ident, v)) fun first =>
      h.bind ih fun rest => h.pure (first :: rest)

end Closed

/-- Where no byte is left, no request is served, and the reader stays where it is. -/
lemma read_of_rest_eq_nil (q : Request) (position : Nat) :
    q.read ⟨position, []⟩ = .error .endOfInput ⟨position, []⟩ := by
  cases q with
  | method m => cases m <;> rfl
  | _ => rfl

lemma takes_request (q : Request) :
    Takes q.read fun v taken => taken ≠ [] ∧ Reads q.read taken v := by
  apply takes_mono (isLocal_closed.request q)
  rintro v taken hreads
  refine ⟨?_, hreads⟩
  rintro rfl
  have hread := hreads 0 []
  rw [List.nil_append, read_of_rest_eq_nil] at hread
  cases hread

/-! ### Places in bytes -/

lemma behind_at {m : Read α} (h : StaysWithin m) {n : Nat} (hn : n ≤ bytes.length) :
    ∃ n', n ≤ n' ∧ n' ≤ bytes.length ∧ (Reader.at bytes n).behind m = .at bytes n' := by
  obtain ⟨k, hk, hbehind⟩ := h (.at bytes n)
  simp only [Reader.at, List.length_drop] at hk
  refine ⟨n + k, by omega, by omega, hbehind.trans ?_⟩
  simp [Reader.at, Reader.advance]

/-- Requests lead from one place in the bytes to another that does not lie before it. -/
lemma after_at {n : Nat} (hn : n ≤ bytes.length) (requests : List Request) :
    ∃ n', n ≤ n' ∧ n' ≤ bytes.length ∧ (Reader.at bytes n).after requests = .at bytes n' := by
  induction requests generalizing n with
  | nil => exact ⟨n, le_rfl, hn, rfl⟩
  | cons q requests ih =>
    obtain ⟨k, hnk, hk, hbehind⟩ := behind_at (staysWithin_closed.request q) hn
    obtain ⟨n', hkn, hn', hafter⟩ := ih hk
    refine ⟨n', hnk.trans hkn, hn', ?_⟩
    rw [Reader.after, List.foldl_cons, hbehind]
    exact hafter

lemma isSteady_at {n : Nat} (hn : n ≤ bytes.length) : (Reader.at bytes n).IsSteady bytes where
  le_length := hn
  rest_eq := rfl
  position_add_length := by
    simp only [Reader.at, List.length_drop]
    omega
  position_le_behind q := by
    obtain ⟨n', hle, -, hbehind⟩ := behind_at (staysWithin_closed.request q) hn
    rw [hbehind]
    exact hle
  ok q v next h := by
    obtain ⟨taken, hrest, hposition, hne, hreads⟩ := takes_request q _ v next h
    have hlength := List.length_pos_iff.mpr hne
    simp only [Reader.at] at hrest hposition
    have hcount : next.position - (Reader.at bytes n).position = taken.length := by
      rw [hposition]
      exact Nat.add_sub_cancel_left n taken.length
    have htaken : (bytes.drop (Reader.at bytes n).position).take taken.length = taken := by
      change (bytes.drop n).take taken.length = taken
      rw [hrest, List.take_left]
    rw [hcount, htaken]
    refine ⟨by rw [hposition]; exact Nat.lt_add_of_pos_right hlength, ?_⟩
    rintro ⟨position, _⟩ ⟨rest, rfl⟩
    rw [hreads position rest, Reader.advance, List.drop_left]
  error_of_atEnd h q := by
    obtain rfl : n = bytes.length := h
    have hat : Reader.at bytes bytes.length = ⟨bytes.length, []⟩ := by
      rw [Reader.at, List.drop_length]
    rw [hat, read_of_rest_eq_nil]

/-! ### Rows -/

lemma behind_map (f : α → β) (m : Read α) (r : Reader) : r.behind (f <$> m) = r.behind m := by
  unfold Reader.behind
  simp only [Functor.map, EStateM.map]
  cases m r <;> rfl

lemma staysWithin_hero : StaysWithin HeroRow.read := by
  intro r
  rw [← behind_map HeroRow.values, ← readRow_eq]
  exact staysWithin_closed.readRow heroSchema r

/-- What a reading of bytes from their start has left, counted by its position. -/
lemma position_add_length_of_read {m : Read α} (h : StaysWithin m) {v : α} {next : Reader}
    (hread : m (.ofBytes bytes) = .ok v next) : next.position + next.rest.length = bytes.length := by
  obtain ⟨n, -, hn, hbehind⟩ := behind_at h (Nat.zero_le bytes.length)
  have hnext : (Reader.at bytes 0).behind m = next := by
    rw [Reader.behind, show Reader.at bytes 0 = .ofBytes bytes from rfl, hread]
  rw [← hnext, hbehind]
  exact (isSteady_at hn).position_add_length

/-- Whatever is asked of a reader of some bytes, whether it is served or not, the reader is steady
afterwards. The readings of emitted row types are such runs, up to their first failure, and so are
within the bytes when the row type in full tells how many bytes there are behind a record. -/
theorem isSteady_after (bytes : List UInt8) :
    (∀ requests, ((Reader.ofBytes bytes).after requests).IsSteady bytes) ∧
    (∀ calls fields next, readRecord calls (.ofBytes bytes) = .ok fields next →
      next.position + next.rest.length = bytes.length) ∧
    ∀ row next, HeroRow.read (.ofBytes bytes) = .ok row next → next.rest ≠ [] → ∃ count,
      HeroRow.parseBytes bytes = .error (.malformed (.trailingBytes count)) ∧ 0 < count ∧
        next.position + count = bytes.length := by
  refine ⟨fun requests => ?_, fun calls fields next h => ?_, fun row next h hopen => ?_⟩
  · obtain ⟨n, -, hn, hafter⟩ := after_at (Nat.zero_le bytes.length) requests
    rw [show Reader.ofBytes bytes = .at bytes 0 from rfl, hafter]
    exact isSteady_at hn
  · exact position_add_length_of_read (staysWithin_closed.readRecord calls) h
  · have hlength := position_add_length_of_read staysWithin_hero h
    have hpos := List.length_pos_iff.mpr hopen
    refine ⟨bytes.length - next.position, ?_, by omega, by omega⟩
    unfold HeroRow.parseBytes EStateM.run
    rw [h]
    exact if_neg (mt isAtEnd_iff.mp hopen)

/-- The record of a hero without a name, and the first byte of a number that is cut off. -/
def cutHeroBytes : List UInt8 := List.replicate 24 0 ++ [0x80]

theorem isSteady_after_cutHero :
    (Reader.ofBytes cutHeroBytes).after [.vector4, .vector3, .method .string] = ⟨25, []⟩ ∧
      ((Reader.ofBytes cutHeroBytes).after [.vector4, .vector3, .method .string]).IsSteady
        cutHeroBytes ∧
      (∃ fields next, readRecord [⟨"id", .method .varI32, false⟩] (.ofBytes cutHeroBytes) =
        .ok fields next ∧ next.position + next.rest.length = cutHeroBytes.length) ∧
      ∃ row next, HeroRow.read (.ofBytes cutHeroBytes) = .ok row next ∧ next.rest = [0x80] ∧
        ∃ count, HeroRow.parseBytes cutHeroBytes = .error (.malformed (.trailingBytes count)) ∧
          0 < count ∧ next.position + count = cutHeroBytes.length := by
  have hread : HeroRow.read (.ofBytes cutHeroBytes) =
      .ok ⟨0, "", 0, 0, ⟨0⟩, false, 0, ⟨⟨0⟩, ⟨0⟩, ⟨0⟩⟩, 0, 0, [(1, 0), (2, 0)]⟩ ⟨24, [0x80]⟩ := rfl
  have hid : readRecord [⟨"id", .method .varI32, false⟩] (.ofBytes cutHeroBytes) =
      .ok [("id", .int32 0)] ((Reader.ofBytes cutHeroBytes).advance 1) := rfl
  obtain ⟨hsteady, hrecord, hhero⟩ := isSteady_after cutHeroBytes
  exact ⟨rfl, hsteady _, ⟨_, _, hid, hrecord _ _ _ hid⟩, _, _, hread, rfl,
    hhero _ _ hread (List.cons_ne_nil _ _)⟩

end Proofs

end TypedTables
