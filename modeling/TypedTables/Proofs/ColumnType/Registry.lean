import TypedTables.ColumnType.Registry
import TypedTables.Proofs.Naming
import TypedTables.Proofs.Result
import TypedTables.Proofs.Text.Split

/-!
# Registered types

Registering adds a type at the end and lookup takes the first that fits, so a keyword that names a
type names it for ever. Lookup takes the white space from the ends of what it is given, and not from
the names it knows: a type is found under its own name exactly if that has no white space there.
-/

namespace TypedTables

namespace Registry

/-- The registry behind an attempt to register a type. -/
def after (r : Registry) (c : CustomType) : Registry :=
  match r.register c with
  | .ok next => next
  | .error _ => r

def afterAll (r : Registry) (attempts : List CustomType) : Registry := attempts.foldl after r

/-- The registries that come of registering types, one after the other. -/
inductive Reachable : Registry → Prop
  | empty : Reachable .empty
  | standard : Reachable .standard
  | register {r next : Registry} {c : CustomType} : Reachable r → r.register c = .ok next →
      Reachable next

/-- What registering keeps: types have components, all of them scalars, and no type has a name under
which one before it is found. -/
structure WellFormed (r : Registry) : Prop where
  components : ∀ c ∈ r.customs, c.components ≠ [] ∧ ∀ t ∈ c.components, t.isScalar = true
  names : r.customs.Pairwise fun c d => Text.asciiLower c.name ≠ Text.asciiLower (Text.trim d.name)

end Registry

/-- Whatever is registered later, the type is what its name stands for, and the name is taken. -/
structure StaysRegistered (r : Registry) (c : CustomType) : Prop where
  resolves : ∀ later, (r.afterAll later).resolve c.name = some c.columnType
  taken : ∀ later (d : CustomType), Text.sameIgnoringAsciiCase d.name c.name = true →
    ∃ fault, (r.afterAll later).register d = .error fault

namespace Proofs

open Text (asciiLower trim isBlank stripWhile dropEndWhile sameIgnoringAsciiCase)

variable {r r' next : Registry} {c d : CustomType} {keyword : String} {type : ColumnType}

/-! ### Names -/

lemma isBlank_asciiLower (x : Char) :
    isBlank (if 65 ≤ x.toNat ∧ x.toNat ≤ 90 then Char.ofNat (x.toNat + 32) else x) = isBlank x := by
  by_cases hcapital : 65 ≤ x.toNat ∧ x.toNat ≤ 90
  · have hsmall := toNat_small_of_capital hcapital
    rw [if_pos hcapital, Bool.eq_iff_iff]
    simp only [isBlank, hsmall, Bool.or_eq_true, Bool.and_eq_true, decide_eq_true_eq, beq_iff_eq]
    omega
  · rw [if_neg hcapital]

lemma stripWhile_map {p : Char → Bool} {f : Char → Char} (h : ∀ x, p (f x) = p x) (l : List Char) :
    stripWhile p (l.map f) = (stripWhile p l).map f := by
  have hp : p ∘ f = p := funext h
  unfold stripWhile dropEndWhile
  simp only [List.dropWhile_map, ← List.map_reverse, hp]

lemma trim_asciiLower (s : String) : trim (asciiLower s) = asciiLower (trim s) := by
  unfold trim asciiLower
  rw [String.toList_ofList, String.toList_ofList, stripWhile_map isBlank_asciiLower]

lemma length_asciiLower (s : String) : (asciiLower s).toList.length = s.toList.length := by
  rw [asciiLower, String.toList_ofList, List.length_map]

lemma trim_eq_self_of_lower {s : String} (h : asciiLower s = asciiLower (trim s)) : trim s = s := by
  have hsublist : (trim s).toList.Sublist s.toList := by
    rw [Text.toList_trim]
    exact stripWhile_sublist isBlank s.toList
  -- neither side has lost a character, so no white space has been taken away
  have hlength : (trim s).toList.length = s.toList.length := by
    rw [← length_asciiLower, ← h, length_asciiLower]
  exact String.toList_inj.mp (hsublist.eq_of_length hlength)

/-! ### One registration -/

lemma register_eq_ok : r.register c = .ok next ↔
    (c.components ≠ [] ∧ ∀ t ∈ c.components, t.isScalar = true) ∧
      (Builtin.ofKeyword? c.name = none ∧ r.find? c.name = none) ∧ next = ⟨r.customs ++ [c]⟩ := by
  unfold Registry.register
  by_cases hempty : c.components = []
  · simp [hempty]
  · rw [if_neg (by simpa using hempty)]
    cases hscalar : c.components.find? (fun t => !t.isScalar) with
    | some component =>
      have hmem := List.mem_of_find?_eq_some hscalar
      have hnot := List.find?_some hscalar
      refine iff_of_false (by simp) ?_
      rintro ⟨⟨-, hall⟩, -⟩
      simp [hall component hmem] at hnot
    | none =>
      have hall : ∀ t ∈ c.components, t.isScalar = true := by
        simpa using List.find?_eq_none.mp hscalar
      by_cases htaken : ((Builtin.ofKeyword? c.name).isSome || (r.find? c.name).isSome) = true
      · rw [if_pos htaken]
        refine iff_of_false (by simp) ?_
        rintro ⟨-, ⟨hbuiltin, hfind⟩, -⟩
        simp [hbuiltin, hfind] at htaken
      · rw [if_neg htaken, Except.ok.injEq]
        simp only [Bool.or_eq_true, Option.isSome_iff_ne_none, not_or, not_not] at htaken
        constructor
        · rintro rfl
          exact ⟨⟨hempty, hall⟩, htaken, rfl⟩
        · rintro ⟨-, -, rfl⟩
          rfl

lemma exists_register_eq_error (h : (r.find? c.name).isSome = true) :
    ∃ fault, r.register c = .error fault := by
  cases hregister : r.register c with
  | error fault => exact ⟨fault, rfl⟩
  | ok next =>
    obtain ⟨-, ⟨-, hnone⟩, -⟩ := register_eq_ok.mp hregister
    rw [hnone] at h
    cases h

lemma customs_prefix_after (r : Registry) (c : CustomType) : r.customs <+: (r.after c).customs := by
  unfold Registry.after
  cases hregister : r.register c with
  | error fault => exact List.prefix_refl _
  | ok next =>
    obtain ⟨-, -, rfl⟩ := register_eq_ok.mp hregister
    exact List.prefix_append _ _

lemma find?_eq_some (h : r.find? keyword = some c) :
    c ∈ r.customs ∧ asciiLower c.name = asciiLower (trim keyword) := by
  have hsame := List.find?_some h
  exact ⟨List.mem_of_find?_eq_some h, by simpa [sameIgnoringAsciiCase] using hsame⟩

lemma isSome_find? (h : c ∈ r.customs) (hname : asciiLower c.name = asciiLower (trim keyword)) :
    (r.find? keyword).isSome = true := by
  rw [Registry.find?, List.find?_isSome]
  exact ⟨c, h, by simp [sameIgnoringAsciiCase, hname]⟩

/-! ### Reachable registries -/

lemma wellFormed_register (hr : r.WellFormed) (h : r.register c = .ok next) : next.WellFormed := by
  obtain ⟨hcomponents, ⟨-, hfind⟩, rfl⟩ := register_eq_ok.mp h
  constructor
  · intro d hd
    rcases List.mem_append.mp hd with hd | hd
    · exact hr.components d hd
    · rw [List.mem_singleton.mp hd]
      exact hcomponents
  · rw [List.pairwise_append]
    refine ⟨hr.names, List.pairwise_singleton _ _, ?_⟩
    intro d hd e he hname
    obtain rfl := List.mem_singleton.mp he
    have hfound := isSome_find? hd hname
    rw [hfind] at hfound
    cases hfound

theorem wellFormed_of_reachable (h : r.Reachable) : r.WellFormed := by
  induction h with
  | empty => exact ⟨by simp [Registry.empty], .nil⟩
  | standard => exact ⟨by decide +kernel, by decide +kernel⟩
  | register _ h ih => exact wellFormed_register ih h

/-! ### Registries that grow -/

lemma customs_prefix_afterAll (r : Registry) (attempts : List CustomType) :
    r.customs <+: (r.afterAll attempts).customs := by
  induction attempts generalizing r with
  | nil => exact List.prefix_refl _
  | cons c rest ih => exact (customs_prefix_after r c).trans (ih (r.after c))

/-- A keyword that names a type still does so when more types are known. -/
lemma resolve_of_prefix (h : r.customs <+: r'.customs) (hresolve : r.resolve keyword = some type) :
    r'.resolve keyword = some type := by
  unfold Registry.resolve at hresolve ⊢
  cases hbuiltin : Builtin.ofKeyword? keyword with
  | some b =>
    simp only [hbuiltin] at hresolve
    exact hresolve
  | none =>
    simp only [hbuiltin] at hresolve
    obtain ⟨c, hfound, hc⟩ := Option.map_eq_some_iff.mp hresolve
    have hfound' : r'.find? keyword = some c := h.find?_eq_some hfound
    simp only [hfound', Option.map_some, hc]

/-- What a name with white space at its ends stands for is never the type of this name. -/
lemma resolve_ne_of_not_trimmed (hname : trim c.name ≠ c.name) (r : Registry) :
    r.resolve c.name ≠ some c.columnType := by
  intro hresolve
  unfold Registry.resolve at hresolve
  cases hbuiltin : Builtin.ofKeyword? c.name with
  | some b =>
    simp only [hbuiltin] at hresolve
    cases hresolve
  | none =>
    simp only [hbuiltin] at hresolve
    obtain ⟨found, hfound, htype⟩ := Option.map_eq_some_iff.mp hresolve
    obtain ⟨-, hlower⟩ := find?_eq_some hfound
    have hfoundName : found.name = c.name := by
      unfold CustomType.columnType at htype
      exact (ColumnType.custom.inj htype).1
    rw [hfoundName] at hlower
    exact hname (trim_eq_self_of_lower hlower)

section Registered

variable (h : r.register c = .ok next)

include h

lemma mem_customs_of_register : c ∈ next.customs := by
  obtain ⟨-, -, rfl⟩ := register_eq_ok.mp h
  simp

/-- A type without white space at the ends of its name is the first that its name fits. -/
lemma resolve_of_register (hname : trim c.name = c.name) :
    next.resolve c.name = some c.columnType := by
  obtain ⟨-, ⟨hbuiltin, hfind⟩, rfl⟩ := register_eq_ok.mp h
  have hself : sameIgnoringAsciiCase c.name (trim c.name) = true := by
    simp [sameIgnoringAsciiCase, hname]
  have hfound : Registry.find? ⟨r.customs ++ [c]⟩ c.name = some c := by
    unfold Registry.find? at hfind ⊢
    rw [List.find?_append, hfind]
    simp [hself]
  unfold Registry.resolve
  simp only [hbuiltin, hfound, Option.map_some]

theorem staysRegistered_of_trimmed (hname : trim c.name = c.name) : StaysRegistered next c where
  resolves later :=
    resolve_of_prefix (customs_prefix_afterAll next later) (resolve_of_register h hname)
  taken later d hsame := by
    have hmem := (customs_prefix_afterAll next later).subset (mem_customs_of_register h)
    have hlower : asciiLower d.name = asciiLower c.name := by
      simpa [sameIgnoringAsciiCase] using hsame
    have hfits : asciiLower c.name = asciiLower (trim d.name) := by
      rw [← trim_asciiLower, hlower, trim_asciiLower, hname]
    exact exists_register_eq_error (isSome_find? hmem hfits)

lemma exists_register_again (hname : trim c.name ≠ c.name) :
    ∃ again, next.register c = .ok again := by
  obtain ⟨hcomponents, ⟨hbuiltin, hfind⟩, rfl⟩ := register_eq_ok.mp h
  refine ⟨_, register_eq_ok.mpr ⟨hcomponents, ⟨hbuiltin, ?_⟩, rfl⟩⟩
  have hother : sameIgnoringAsciiCase c.name (trim c.name) = false := by
    rw [sameIgnoringAsciiCase, beq_eq_false_iff_ne]
    exact fun hlower => hname (trim_eq_self_of_lower hlower)
  unfold Registry.find? at hfind ⊢
  rw [List.find?_append, hfind]
  simp [hother]

end Registered

/-- A refused type changes nothing, and no registration changes what a keyword stands for. A
registered type stays registered exactly if its name has no white space at its ends; with such a name
it is never found, and can be registered again at once. -/
theorem staysRegistered_iff_trimmed (r : Registry) (c : CustomType) :
    (∀ fault, r.register c = .error fault → r.after c = r) ∧
    (∀ keyword type, r.resolve keyword = some type → (r.after c).resolve keyword = some type) ∧
    ∀ next, r.register c = .ok next →
      (StaysRegistered next c ↔ trim c.name = c.name) ∧
      (trim c.name ≠ c.name →
        (∀ later, (next.afterAll later).resolve c.name ≠ some c.columnType) ∧
          ∃ again, next.register c = .ok again) := by
  refine ⟨?_, ?_, ?_⟩
  · intro fault hfault
    rw [Registry.after, hfault]
  · intro keyword type hresolve
    exact resolve_of_prefix (customs_prefix_after r c) hresolve
  · intro next h
    refine ⟨⟨fun hstays => ?_, staysRegistered_of_trimmed h⟩, fun hname => ⟨fun later => ?_, ?_⟩⟩
    · by_contra hname
      exact resolve_ne_of_not_trimmed hname _ (hstays.resolves [])
    · exact resolve_ne_of_not_trimmed hname _
    · exact exists_register_again h hname

/-- A pair of integers under this name. -/
def pair (name : String) : CustomType :=
  .ofComponents name [.builtin .int32, .builtin .int32]

/-- Behind `Range`, which stays, the same name with a blank in front is refused; before it, it is
accepted, and then cannot be found. -/
theorem staysRegistered_iff_trimmed_range : ∃ next padded,
    Registry.standard.register (pair "Range") = .ok next ∧ StaysRegistered next (pair "Range") ∧
    next.after (pair " Range") = next ∧
    (next.after (pair "Point")).resolve " range " = some (pair "Range").columnType ∧
    Registry.standard.register (pair " Range") = .ok padded ∧
    (∀ later, (padded.afterAll later).resolve " Range" ≠ some (pair " Range").columnType) ∧
    ∃ again, padded.register (pair " Range") = .ok again := by
  let next : Registry := ⟨Registry.standard.customs ++ [pair "Range"]⟩
  let padded : Registry := ⟨Registry.standard.customs ++ [pair " Range"]⟩
  have hnext : Registry.standard.register (pair "Range") = .ok next :=
    register_eq_ok.mpr ⟨by decide +kernel, by decide +kernel, rfl⟩
  have hpadded : Registry.standard.register (pair " Range") = .ok padded :=
    register_eq_ok.mpr ⟨by decide +kernel, by decide +kernel, rfl⟩
  obtain ⟨fault, hrefused⟩ : ∃ fault, next.register (pair " Range") = .error fault :=
    exists_register_eq_error (by decide +kernel)
  have hrange : next.resolve " range " = some (pair "Range").columnType := by decide +kernel
  obtain ⟨-, -, hstays⟩ := staysRegistered_iff_trimmed Registry.standard (pair "Range")
  obtain ⟨hunchanged, -, -⟩ := staysRegistered_iff_trimmed next (pair " Range")
  obtain ⟨-, hkept, -⟩ := staysRegistered_iff_trimmed next (pair "Point")
  obtain ⟨-, -, hlost⟩ := staysRegistered_iff_trimmed Registry.standard (pair " Range")
  have htrimmed : trim (pair "Range").name = (pair "Range").name := by decide +kernel
  have hblank : trim (pair " Range").name ≠ (pair " Range").name := by decide +kernel
  obtain ⟨hnever, hagain⟩ := (hlost padded hpadded).2 hblank
  exact ⟨next, padded, hnext, (hstays next hnext).1.mpr htrimmed, hunchanged fault hrefused,
    hkept " range " _ hrange, hpadded, hnever, hagain⟩

/-- A type that could be registered need not be what its name stands for. -/
theorem not_resolves_padded : ¬∀ r c next, Registry.register r c = .ok next →
    next.resolve c.name = some c.columnType := by
  intro h
  have hregister : Registry.standard.register (pair " Range") =
      .ok ⟨Registry.standard.customs ++ [pair " Range"]⟩ :=
    register_eq_ok.mpr ⟨by decide +kernel, by decide +kernel, rfl⟩
  have hunknown : Registry.resolve ⟨Registry.standard.customs ++ [pair " Range"]⟩ " Range" = none := by
    decide +kernel
  have hresolve := h _ _ _ hregister
  rw [show (pair " Range").name = " Range" from rfl, hunknown] at hresolve
  cases hresolve

end Proofs

end TypedTables
