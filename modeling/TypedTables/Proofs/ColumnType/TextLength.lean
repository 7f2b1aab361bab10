import TypedTables.Proofs.ColumnType.Cell

/-!
# The longest texts

The length in front of a text has 32 bits, and no text is refused for its length. Main statement: a
text is read back exactly if its length is written as it is. Of a longer one only the front is read,
and the next field is looked for in what remains of it.
-/

namespace TypedTables.Proofs

open Wire (utf8 lengthModulus)

/-- Whether nothing is written for a text, or what is written is read back as this text, whatever
follows. -/
def IsRefusedOrReadBack (s : String) : Prop :=
  (∃ e, (ColumnType.builtin .string).encode (.string s) = .error e) ∨
    Reads Wire.read (Wire.encode s) s

lemma encode_string (s : String) :
    (ColumnType.builtin .string).encode (.string s) = .ok (Wire.encode s) := by
  rw [ColumnType.encode, Builtin.encode?]

lemma reads_encode_string_iff {s : String} : Reads Wire.read (Wire.encode s) s ↔ IsShort s := by
  refine ⟨fun h => ?_, reads_string⟩
  obtain ⟨-, -, -, -, hshort⟩ := takes_string _ _ _ (h 0 [])
  exact hshort

lemma isRefusedOrReadBack_iff_isShort {s : String} : IsRefusedOrReadBack s ↔ IsShort s := by
  rw [← reads_encode_string_iff]
  refine ⟨fun h => h.resolve_left ?_, .inr⟩
  rintro ⟨e, he⟩
  rw [encode_string] at he
  cases he

/-- What is read in place of a text, and what is left behind it. -/
lemma front_of_read_encode {s v : String} {position : Nat} {behind : List UInt8} {next : Reader}
    (h : Wire.read ⟨position, Wire.encode s ++ behind⟩ = .ok v next) :
    utf8 v = (utf8 s).take ((utf8 s).length % lengthModulus) ∧
      next.rest = (utf8 s).drop ((utf8 s).length % lengthModulus) ++ behind := by
  rw [read_encode_string] at h
  obtain ⟨taken, hrest, -, rfl, hlength⟩ := takes_text _ _ _ _ h
  change utf8 s ++ behind = utf8 v ++ next.rest at hrest
  have hle : (utf8 v).length ≤ (utf8 s).length := hlength ▸ Nat.mod_le _ _
  have hfront : (utf8 s ++ behind).take (utf8 v).length = (utf8 s).take (utf8 v).length :=
    List.take_append_of_le_length hle
  have hback : (utf8 s ++ behind).drop (utf8 v).length = (utf8 s).drop (utf8 v).length ++ behind :=
    List.drop_append_of_le_length hle
  rw [hrest, List.take_left] at hfront
  rw [hrest, List.drop_left] at hback
  rw [← hlength]
  exact ⟨hfront, hback⟩

/-- Every text is written. It is read back exactly if its bytes are fewer than `2 ^ 32`; otherwise
whatever is read is what a length taken modulo `2 ^ 32` leaves of it, and the remaining bytes of the
text stand where the next field is looked for. -/
theorem isRefusedOrReadBack_iff (s : String) :
    (ColumnType.builtin .string).encode (.string s) = .ok (Wire.encode s) ∧
    (IsRefusedOrReadBack s ↔ (utf8 s).length < 2 ^ 32) ∧
    ∀ position behind v next, Wire.read ⟨position, Wire.encode s ++ behind⟩ = .ok v next →
      utf8 v = (utf8 s).take ((utf8 s).length % 2 ^ 32) ∧
        next.rest = (utf8 s).drop ((utf8 s).length % 2 ^ 32) ++ behind := by
  rw [show 2 ^ 32 = lengthModulus from rfl]
  exact ⟨encode_string s, isRefusedOrReadBack_iff_isShort, fun _ _ _ _ => front_of_read_encode⟩

example : IsRefusedOrReadBack "grün" :=
  isRefusedOrReadBack_iff_isShort.mpr (show (utf8 "grün").length < lengthModulus by decide)

lemma length_utf8_replicate (n : Nat) :
    (utf8 (String.ofList (List.replicate n 'a'))).length = n := by
  have hchar : String.utf8EncodeChar 'a' = [97] := rfl
  rw [utf8_eq_flatMap, String.toList_ofList, List.flatMap_replicate, hchar]
  simp

lemma read_encode_of_mod_eq_zero {s : String} (h : (utf8 s).length % lengthModulus = 0) :
    Wire.read ⟨0, Wire.encode s⟩ = .ok "" ⟨1, utf8 s⟩ := by
  have hprefix : Varint.encode 0 = [0] := by simp [Varint.encode]
  have hempty : utf8 "" = [] := by decide
  have hread := read_encode_string s 0 []
  have htext := reads_text "" 1 (utf8 s)
  rw [h, hprefix, List.append_nil, List.append_nil] at hread
  rw [hempty] at htext
  exact hread.trans htext

/-- A text of `2 ^ 32` bytes is written with the length 0 in front of it. -/
theorem not_isRefusedOrReadBack_of_longest :
    Wire.read ⟨0, Wire.encode (String.ofList (List.replicate lengthModulus 'a'))⟩ =
        .ok "" ⟨1, utf8 (String.ofList (List.replicate lengthModulus 'a'))⟩ ∧
      ¬IsRefusedOrReadBack (String.ofList (List.replicate lengthModulus 'a')) := by
  have hlength := length_utf8_replicate lengthModulus
  refine ⟨read_encode_of_mod_eq_zero (by rw [hlength, Nat.mod_self]), ?_⟩
  rw [isRefusedOrReadBack_iff_isShort, IsShort, hlength]
  exact lt_irrefl _

end TypedTables.Proofs
