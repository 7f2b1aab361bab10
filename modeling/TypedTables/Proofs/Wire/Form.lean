import TypedTables.Proofs.Wire.Integer

/-!
# Binary forms, written and read

For every scalar type, reading takes what writing makes, and what reading takes condenses to what
writing makes. Strings add a condition: only those shorter than the largest length that a prefix
can hold are read back.
-/

namespace TypedTables.Proofs

open Wire (utf8 ofUtf8? littleEndian ofLittleEndian lengthModulus)

/-- Types whose binary form is read back, and whose readings condense to it. -/
class LawfulWire (α : Type) [Wire α] : Prop where
  reads : ∀ v : α, Reads Wire.read (Wire.encode v) v
  takes : Takes (Wire.read : Read α) (fun v taken => Condenses taken (Wire.encode v))

/-- A type whose values are written as those of another type, one to one. -/
lemma lawfulWire_of_equiv {α β : Type} [Wire α] [Wire β] [LawfulWire α] (e : α ≃ β)
    (hencode : ∀ v : β, Wire.encode v = Wire.encode (e.symm v))
    (hread : (Wire.read : Read β) = e <$> Wire.read) : LawfulWire β where
  reads v := by
    rw [hread, hencode]
    simpa using reads_map e (LawfulWire.reads (e.symm v))
  takes := by
    rw [hread]
    apply takes_map e LawfulWire.takes
    intro v taken hv
    rw [hencode, Equiv.symm_apply_apply]
    exact hv

instance : LawfulWire UInt8 where
  reads v := reads_byte v
  takes := takes_mono takes_byte (fun v _ h => h ▸ condenses_refl [v])

instance : LawfulWire Int8 :=
  lawfulWire_of_equiv ⟨UInt8.toInt8, Int8.toUInt8, fun _ => rfl, fun _ => rfl⟩ (fun _ => rfl) rfl

instance : LawfulWire Bool where
  reads v := by
    cases v
    · exact reads_map (· != 0) (reads_byte 0)
    · exact reads_map (· != 0) (reads_byte 1)
  takes := by
    apply takes_map (fun b : UInt8 => b != 0) takes_byte
    rintro b taken rfl
    by_cases hb : b = 0
    · subst hb
      exact condenses_refl [0]
    · have hpos : b.toNat ≠ 0 := fun h => hb (UInt8.toNat_inj.mp h)
      have hencode : Wire.encode (b != 0) = [1] := by simp [hb, Wire.encode]
      rw [hencode]
      refine ⟨le_rfl, ?_, ?_⟩
      · simp only [weight_cons, weight_nil, UInt8.reduceToNat]
        omega
      · intro h
        simp only [weight_cons, weight_nil, UInt8.reduceToNat] at h
        rw [UInt8.toNat_inj.mp (show (1 : UInt8).toNat = b.toNat by simp only [UInt8.reduceToNat]; omega)]

instance {α : Type} [Wire α] {most limit greatest : Nat} {number : α → Nat}
    [VarintWire α most limit greatest number] : LawfulWire α where
  reads v := by
    rw [VarintWire.encode]
    exact VarintWire.reads v _ (VarintWire.fits v) (isGroups_encode _).2
  takes := by
    apply takes_mono VarintWire.takes
    rintro v taken ⟨hfits, hnumber⟩
    rw [VarintWire.encode, ← hnumber]
    exact condenses_groups hfits.groups

/-! ### Floating-point numbers -/

@[simp] lemma length_littleEndian (count n : Nat) : (littleEndian count n).length = count := by
  induction count generalizing n with
  | zero => rfl
  | succ count ih => simp [littleEndian, ih]

lemma ofLittleEndian_littleEndian (count n : Nat) :
    ofLittleEndian (littleEndian count n) = n % 256 ^ count := by
  induction count generalizing n with
  | zero => simp [littleEndian, ofLittleEndian, Nat.mod_one]
  | succ count ih =>
    rw [littleEndian, ofLittleEndian, ih, toNat_ofNat_byte (Nat.mod_lt n (by omega)), pow_succ',
      Nat.mod_mul]

lemma ofLittleEndian_lt (bytes : List UInt8) : ofLittleEndian bytes < 256 ^ bytes.length := by
  induction bytes with
  | nil => simp [ofLittleEndian]
  | cons b rest ih =>
    have hb := b.toNat_lt
    rw [ofLittleEndian, List.length_cons, pow_succ']
    omega

lemma littleEndian_ofLittleEndian (bytes : List UInt8) :
    littleEndian bytes.length (ofLittleEndian bytes) = bytes := by
  induction bytes with
  | nil => rfl
  | cons b rest ih =>
    have hb := b.toNat_lt
    have hhead : (b.toNat + 256 * ofLittleEndian rest) % 256 = b.toNat := by omega
    have htail : (b.toNat + 256 * ofLittleEndian rest) / 256 = ofLittleEndian rest := by omega
    rw [List.length_cons, ofLittleEndian, littleEndian, hhead, htail, ih, UInt8.ofNat_toNat]

/-- Readings of a fixed number of bytes take exactly the little-endian form of their number. -/
lemma takes_littleEndian (count : Nat) : Takes (Read.bytes count) (fun bytes taken =>
    taken = littleEndian count (ofLittleEndian bytes) ∧ ofLittleEndian bytes < 256 ^ count) := by
  apply takes_mono (takes_bytes count)
  rintro bytes taken ⟨rfl, rfl⟩
  exact ⟨(littleEndian_ofLittleEndian taken).symm, ofLittleEndian_lt taken⟩

lemma reads_littleEndian (count n : Nat) :
    Reads (Read.bytes count) (littleEndian count n) (littleEndian count n) := by
  have h := reads_bytes (littleEndian count n)
  rwa [length_littleEndian] at h

lemma lawfulWire_of_littleEndian {α : Type} [Wire α] {count : Nat} {pack : Nat → α}
    {unpack : α → Nat} (hlt : ∀ v, unpack v < 256 ^ count) (hpack : ∀ v, pack (unpack v) = v)
    (hunpack : ∀ n < 256 ^ count, unpack (pack n) = n)
    (hencode : ∀ v, Wire.encode v = littleEndian count (unpack v))
    (hread : (Wire.read : Read α) = (fun bytes => pack (ofLittleEndian bytes)) <$> Read.bytes count) :
    LawfulWire α where
  reads v := by
    have hreads := reads_map (fun bytes => pack (ofLittleEndian bytes))
      (reads_littleEndian count (unpack v))
    rw [ofLittleEndian_littleEndian, Nat.mod_eq_of_lt (hlt v), hpack] at hreads
    rw [hread, hencode]
    exact hreads
  takes := by
    rw [hread]
    apply takes_map (fun bytes => pack (ofLittleEndian bytes)) (takes_littleEndian count)
    rintro bytes taken ⟨rfl, hbytes⟩
    rw [hencode, hunpack _ hbytes]
    exact condenses_refl _

instance : LawfulWire Single :=
  lawfulWire_of_littleEndian (fun v => v.bits.toNat_lt)
    (fun _ => congrArg Single.mk UInt32.ofNat_toNat) (fun _ => UInt32.toNat_ofNat_of_lt)
    (fun _ => rfl) rfl

instance : LawfulWire Double :=
  lawfulWire_of_littleEndian (fun v => v.bits.toNat_lt)
    (fun _ => congrArg Double.mk UInt64.ofNat_toNat) (fun _ => UInt64.toNat_ofNat_of_lt)
    (fun _ => rfl) rfl

/-! ### Strings -/

lemma ofUtf8?_utf8 (s : String) : ofUtf8? (utf8 s) = some s := by
  unfold ofUtf8? utf8
  rw [String.fromUTF8?]
  simp only [String.toUTF8_eq_toByteArray, Array.toArray_toList, Option.dite_none_right_eq_some]
  exact ⟨s.isValidUTF8, rfl⟩

lemma utf8_of_ofUtf8? {bytes : List UInt8} {s : String} (h : ofUtf8? bytes = some s) :
    utf8 s = bytes := by
  unfold ofUtf8? at h
  rw [String.fromUTF8?] at h
  split at h
  · simp only [Option.some.injEq] at h
    subst h
    simp [utf8, String.fromUTF8]
  · simp at h

lemma reads_text (s : String) : Reads (Wire.readText (utf8 s).length) (utf8 s) s := by
  intro position rest
  have htake : (utf8 s ++ rest).take (utf8 s).length = utf8 s := by simp
  have hlength : (utf8 s).length ≤ (utf8 s ++ rest).length := by simp
  simp only [Wire.readText, htake, hlength, if_true, ofUtf8?_utf8]
  simp [Reader.advance]

lemma takes_text (n : Nat) :
    Takes (Wire.readText n) (fun s taken => taken = utf8 s ∧ (utf8 s).length = n) := by
  intro r s next h
  unfold Wire.readText at h
  split at h
  · next hn =>
    split at h
    · next t ht =>
      simp only [EStateM.Result.ok.injEq] at h
      obtain ⟨rfl, rfl⟩ := h
      have hutf := utf8_of_ofUtf8? ht
      have hlength : (r.rest.take n).length = n := by simp [hn]
      refine ⟨r.rest.take n, by simp [Reader.advance], ?_, hutf.symm, by rw [hutf, hlength]⟩
      simp only [Reader.advance, hlength]
    · simp [Read.malformed] at h
  · simp [Read.malformed] at h

lemma isLocal_text (n : Nat) : IsLocal (Wire.readText n) := by
  apply takes_mono (takes_text n)
  rintro s taken ⟨rfl, rfl⟩
  exact reads_text s

lemma raises_text {P : RowError → Prop} (n : Nat) (h : ∀ cause, P (.malformed cause)) :
    Raises (Wire.readText n) P := by
  have hrefused (cause : Nat → Malformation) : Raises (Read.malformed cause : Read String) P :=
    raises_malformed fun _ => h _
  intro r e next hread
  unfold Wire.readText at hread
  split at hread
  · split at hread
    · cases hread
    · exact hrefused _ _ e next hread
  · exact hrefused _ _ e next hread

/-- Behind the prefix stands the whole text, but what is read of it is only as long as the prefix
says. -/
lemma read_encode_string (s : String) (position : Nat) (behind : List UInt8) :
    Wire.read ⟨position, Wire.encode s ++ behind⟩ =
      Wire.readText ((utf8 s).length % lengthModulus)
        ⟨position + (Varint.encode ((utf8 s).length % lengthModulus)).length, utf8 s ++ behind⟩ := by
  have hlength : (UInt32.ofNat (utf8 s).length).toNat = (utf8 s).length % lengthModulus :=
    UInt32.toNat_ofNat'
  have hprefix := LawfulWire.reads (UInt32.ofNat (utf8 s).length) position (utf8 s ++ behind)
  change Wire.read ⟨position, Varint.encode (UInt32.ofNat (utf8 s).length).toNat ++ _⟩ =
    .ok _ ⟨position + (Varint.encode (UInt32.ofNat (utf8 s).length).toNat).length, _⟩ at hprefix
  rw [hlength] at hprefix
  change EStateM.bind _ (fun n : UInt32 => Wire.readText n.toNat)
    ⟨position, (Varint.encode ((utf8 s).length % lengthModulus) ++ utf8 s) ++ behind⟩ = _
  rw [EStateM.bind, List.append_assoc, hprefix]
  exact congrArg (Wire.readText · _) hlength

theorem reads_string {s : String} (h : (utf8 s).length < lengthModulus) :
    Reads Wire.read (Wire.encode s) s := by
  intro position behind
  have hencode : Wire.encode s = Varint.encode (utf8 s).length ++ utf8 s := by
    change Varint.encode ((utf8 s).length % lengthModulus) ++ utf8 s = _
    rw [Nat.mod_eq_of_lt h]
  rw [read_encode_string, Nat.mod_eq_of_lt h, reads_text s, hencode, List.length_append,
    Nat.add_assoc]

/-- What is taken for a string condenses to its form, and the string is short enough to be read
back from it. -/
theorem takes_string : Takes (Wire.read : Read String) (fun s taken =>
    Condenses taken (Wire.encode s) ∧ (utf8 s).length < lengthModulus) := by
  refine takes_mono (takes_bind (g := fun n s taken =>
    taken = utf8 s ∧ (utf8 s).length = n.toNat) (LawfulWire.takes (α := UInt32))
    (fun n => takes_text n.toNat)) ?_
  rintro s taken ⟨n, first, second, rfl, hfirst, rfl, hlength⟩
  have hlt : (utf8 s).length < lengthModulus := by
    rw [hlength]
    exact n.toNat_lt
  refine ⟨?_, hlt⟩
  change Condenses _ (Varint.encode ((utf8 s).length % lengthModulus) ++ utf8 s)
  rw [Nat.mod_eq_of_lt hlt, hlength]
  exact condenses_append hfirst (condenses_refl _)

end TypedTables.Proofs
