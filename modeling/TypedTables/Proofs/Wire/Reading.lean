import TypedTables.Wire.Form
import Mathlib.Tactic

/-!
# What a reading takes

A reading is judged by the bytes that it takes off the front. `Reads m bytes v` says that `m` takes
exactly `bytes` and gives `v`, whatever follows them. `Takes m form` says the converse: what `m`
takes whenever it succeeds is a form of its result. Both compose along sequences of readings.
-/

namespace TypedTables.Proofs

variable {α β : Type}

/-- The reading takes `bytes` and gives `v`, whatever follows. -/
def Reads (m : Read α) (bytes : List UInt8) (v : α) : Prop :=
  ∀ position rest, m ⟨position, bytes ++ rest⟩ = .ok v ⟨position + bytes.length, rest⟩

/-- Whenever the reading succeeds, what it took is a form of its result. -/
def Takes (m : Read α) (form : α → List UInt8 → Prop) : Prop :=
  ∀ r v next, m r = .ok v next →
    ∃ taken, r.rest = taken ++ next.rest ∧ next.position = r.position + taken.length ∧ form v taken

lemma reads_pure (v : α) : Reads (pure v) [] v := fun _ _ => rfl

lemma reads_bind {m : Read α} {f : α → Read β} {first second : List UInt8} {v : α} {w : β}
    (hm : Reads m first v) (hf : Reads (f v) second w) : Reads (m >>= f) (first ++ second) w := by
  intro position rest
  have hstep := hm position (second ++ rest)
  have hthen := hf (position + first.length) rest
  change EStateM.bind m f _ = _
  rw [EStateM.bind, List.append_assoc, hstep]
  simp only [hthen, List.length_append, Nat.add_assoc]

lemma reads_map {m : Read α} {bytes : List UInt8} {v : α} (f : α → β) (hm : Reads m bytes v) :
    Reads (f <$> m) bytes (f v) := by
  intro position rest
  change EStateM.map f m _ = _
  rw [EStateM.map, hm position rest]

lemma reads_byte (b : UInt8) : Reads Read.byte [b] b := fun _ _ => rfl

lemma reads_bytes (bytes : List UInt8) : Reads (Read.bytes bytes.length) bytes bytes := by
  intro position rest
  simp [Read.bytes, Reader.advance]

lemma takes_pure (v : α) : Takes (pure v) (fun w taken => w = v ∧ taken = []) := by
  intro r w next h
  obtain ⟨rfl, rfl⟩ : v = w ∧ r = next := by simpa [pure, EStateM.pure] using h
  exact ⟨[], rfl, rfl, rfl, rfl⟩

lemma takes_bind {m : Read α} {f : α → Read β} {form : α → List UInt8 → Prop}
    {g : α → β → List UInt8 → Prop} (hm : Takes m form) (hf : ∀ v, Takes (f v) (g v)) :
    Takes (m >>= f) (fun w taken => ∃ v first second,
      taken = first ++ second ∧ form v first ∧ g v w second) := by
  intro r w next h
  change EStateM.bind m f r = _ at h
  rw [EStateM.bind] at h
  cases hfirst : m r with
  | error e between => simp [hfirst] at h
  | ok v between =>
    rw [hfirst] at h
    obtain ⟨first, hrest, hposition, hform⟩ := hm r v between hfirst
    obtain ⟨second, hrest', hposition', hthen⟩ := hf v between w next h
    refine ⟨first ++ second, ?_, ?_, v, first, second, rfl, hform, hthen⟩
    · rw [hrest, hrest', List.append_assoc]
    · rw [hposition', hposition, List.length_append, Nat.add_assoc]

lemma takes_map {m : Read α} {form : α → List UInt8 → Prop} {form' : β → List UInt8 → Prop}
    (f : α → β) (hm : Takes m form) (hform : ∀ v taken, form v taken → form' (f v) taken) :
    Takes (f <$> m) form' := by
  intro r w next h
  change EStateM.map f m r = _ at h
  rw [EStateM.map] at h
  cases hfirst : m r with
  | error e between => simp [hfirst] at h
  | ok v between =>
    simp only [hfirst, EStateM.Result.ok.injEq] at h
    obtain ⟨rfl, rfl⟩ := h
    obtain ⟨taken, hrest, hposition, hv⟩ := hm r v between hfirst
    exact ⟨taken, hrest, hposition, hform v taken hv⟩

lemma takes_mono {m : Read α} {form form' : α → List UInt8 → Prop} (hm : Takes m form)
    (hform : ∀ v taken, form v taken → form' v taken) : Takes m form' := by
  intro r v next h
  obtain ⟨taken, hrest, hposition, hv⟩ := hm r v next h
  exact ⟨taken, hrest, hposition, hform v taken hv⟩

lemma takes_byte : Takes Read.byte (fun b taken => taken = [b]) := by
  intro r b next h
  unfold Read.byte at h
  split at h
  · simp at h
  · next c rest hr =>
    simp only [EStateM.Result.ok.injEq] at h
    obtain ⟨rfl, rfl⟩ := h
    exact ⟨[c], by simp [Reader.advance, hr], rfl, rfl⟩

lemma takes_bytes (n : Nat) :
    Takes (Read.bytes n) (fun bytes taken => taken = bytes ∧ bytes.length = n) := by
  intro r bytes next h
  unfold Read.bytes at h
  split at h
  · next hn =>
    simp only [EStateM.Result.ok.injEq] at h
    obtain ⟨rfl, rfl⟩ := h
    exact ⟨r.rest.take n, by simp [Reader.advance], by simp [Reader.advance, hn], rfl, by simp [hn]⟩
  · simp at h

lemma takes_malformed (cause : Nat → Malformation) (form : α → List UInt8 → Prop) :
    Takes (Read.malformed cause) form := by
  intro r v next h
  simp [Read.malformed] at h

lemma takes_ite {p : Prop} [Decidable p] {m n : Read α} {form : α → List UInt8 → Prop}
    (hm : p → Takes m form) (hn : ¬p → Takes n form) : Takes (if p then m else n) form := by
  by_cases h : p
  · rw [if_pos h]
    exact hm h
  · rw [if_neg h]
    exact hn h

lemma takes_and {m : Read α} {form form' : α → List UInt8 → Prop} (hm : Takes m form)
    (hm' : Takes m form') : Takes m (fun v taken => form v taken ∧ form' v taken) := by
  intro r v next h
  obtain ⟨taken, hrest, hposition, hv⟩ := hm r v next h
  obtain ⟨taken', hrest', -, hv'⟩ := hm' r v next h
  obtain rfl : taken = taken' := List.append_cancel_right (hrest.symm.trans hrest')
  exact ⟨taken, hrest, hposition, hv, hv'⟩

/-! ### Readings that depend on what they take -/

/-- Whether a reading that succeeds would have done so whatever followed what it took. -/
def IsLocal (m : Read α) : Prop := Takes m fun v taken => Reads m taken v

lemma isLocal_pure (v : α) : IsLocal (pure v) := by
  apply takes_mono (takes_pure v)
  rintro w taken ⟨rfl, rfl⟩
  exact reads_pure w

lemma isLocal_bind {m : Read α} {f : α → Read β} (hm : IsLocal m) (hf : ∀ v, IsLocal (f v)) :
    IsLocal (m >>= f) := by
  apply takes_mono (takes_bind hm hf)
  rintro w taken ⟨v, first, second, rfl, hv, hw⟩
  exact reads_bind hv hw

lemma isLocal_byte : IsLocal Read.byte := by
  apply takes_mono takes_byte
  rintro b taken rfl
  exact reads_byte b

lemma isLocal_bytes (n : Nat) : IsLocal (Read.bytes n) := by
  apply takes_mono (takes_bytes n)
  rintro bytes taken ⟨rfl, rfl⟩
  exact reads_bytes taken

lemma isLocal_malformed (cause : Nat → Malformation) : IsLocal (Read.malformed cause : Read α) :=
  takes_malformed cause _

lemma eq_ok_iff_of_reads {m : Read α} {form : α → List UInt8 → Prop} (hm : Takes m form)
    (hreads : ∀ v taken, form v taken → Reads m taken v) {r next : Reader} {v : α} :
    m r = .ok v next ↔
      ∃ taken, taken <+: r.rest ∧ form v taken ∧ next = r.advance taken.length := by
  constructor
  · intro h
    obtain ⟨taken, hrest, hposition, hform⟩ := hm r v next h
    refine ⟨taken, ⟨next.rest, hrest.symm⟩, hform, ?_⟩
    rw [Reader.advance, hrest, List.drop_left, ← hposition]
  · rintro ⟨taken, ⟨rest, hrest⟩, hform, rfl⟩
    have hread := hreads v taken hform r.position rest
    rw [Reader.advance, ← hrest, List.drop_left]
    rwa [hrest] at hread

/-! ### Errors of readings -/

/-- Whether all errors that a reading can end with are of a kind. -/
def Raises (m : Read α) (P : RowError → Prop) : Prop := ∀ r e next, m r = .error e next → P e

section Raises

variable {P : RowError → Prop}

lemma raises_pure (v : α) : Raises (pure v) P := by
  intro r e next h
  cases h

lemma raises_bind {m : Read α} {f : α → Read β} (hm : Raises m P) (hf : ∀ v, Raises (f v) P) :
    Raises (m >>= f) P := by
  intro r e next h
  change EStateM.bind m f r = _ at h
  rw [EStateM.bind] at h
  cases hfirst : m r with
  | ok v between =>
    rw [hfirst] at h
    exact hf v between e next h
  | error e' between =>
    simp only [hfirst, EStateM.Result.error.injEq] at h
    exact h.1 ▸ hm r e' between hfirst

lemma raises_map {m : Read α} (f : α → β) (hm : Raises m P) : Raises (f <$> m) P := by
  rw [map_eq_pure_bind]
  exact raises_bind hm fun v => raises_pure (f v)

lemma raises_byte (h : P .endOfInput) : Raises Read.byte P := by
  intro r e next hread
  unfold Read.byte at hread
  split at hread
  · simp only [EStateM.Result.error.injEq] at hread
    exact hread.1 ▸ h
  · cases hread

lemma raises_bytes (n : Nat) (h : P .endOfInput) : Raises (Read.bytes n) P := by
  intro r e next hread
  unfold Read.bytes at hread
  split at hread
  · cases hread
  · simp only [EStateM.Result.error.injEq] at hread
    exact hread.1 ▸ h

lemma raises_malformed {cause : Nat → Malformation} (h : ∀ position, P (.malformed (cause position))) :
    Raises (Read.malformed cause : Read α) P := by
  intro r e next hread
  simp only [Read.malformed, EStateM.Result.error.injEq] at hread
  exact hread.1 ▸ h r.position

lemma raises_ite {p : Prop} [Decidable p] {m n : Read α} (hm : p → Raises m P)
    (hn : ¬p → Raises n P) : Raises (if p then m else n) P := by
  by_cases h : p
  · rw [if_pos h]
    exact hm h
  · rw [if_neg h]
    exact hn h

end Raises

end TypedTables.Proofs
