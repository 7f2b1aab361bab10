import Mathlib.Data.List.Forall2
import Mathlib.Tactic

/-!
# Results in sequence

When a computation that can fail succeeds: one step after another, and one step for each member of
a list.
-/

namespace TypedTables.Proofs

variable {ε ε' α β γ : Type}

lemma bind_eq_ok {x : Except ε α} {f : α → Except ε β} {b : β} :
    (x >>= f) = .ok b ↔ ∃ a, x = .ok a ∧ f a = .ok b := by
  cases x with
  | error e => simp [bind, Except.bind]
  | ok a => simp [bind, Except.bind]

lemma bind_eq_error {x : Except ε α} {f : α → Except ε β} {e : ε} :
    (x >>= f) = .error e ↔ x = .error e ∨ ∃ a, x = .ok a ∧ f a = .error e := by
  cases x with
  | error e' => simp [bind, Except.bind]
  | ok a => simp [bind, Except.bind]

/-- What follows a result matters only for the values that the result can have. -/
lemma bind_congr_ok {x : Except ε α} {f g : α → Except ε β} (h : ∀ a, x = .ok a → f a = g a) :
    (x >>= f) = (x >>= g) := by
  cases x with
  | error e => rfl
  | ok a => exact h a rfl

@[simp] lemma pure_eq_ok {a b : α} : (pure a : Except ε α) = .ok b ↔ a = b := by
  simp [pure, Except.pure]

@[simp] lemma throw_ne_ok {e : ε} {b : α} : (throw e : Except ε α) ≠ .ok b := by
  simp [throw, throwThe, MonadExceptOf.throw]

lemma mapError_eq_ok {x : Except ε α} {f : ε → ε'} {a : α} :
    x.mapError f = .ok a ↔ x = .ok a := by
  cases x <;> simp [Except.mapError]

lemma mapError_eq_error {x : Except ε α} {f : ε → ε'} {e' : ε'} :
    x.mapError f = .error e' ↔ ∃ e, x = .error e ∧ f e = e' := by
  cases x <;> simp [Except.mapError]

lemma map_eq_ok {x : Except ε α} {f : α → β} {b : β} :
    x.map f = .ok b ↔ ∃ a, x = .ok a ∧ f a = b := by
  cases x <;> simp [Except.map]

lemma map_eq_error {x : Except ε α} {f : α → β} {e : ε} : x.map f = .error e ↔ x = .error e := by
  cases x <;> simp [Except.map]

lemma exists_map_eq_ok {x : Except ε α} {f : α → β} : (∃ b, x.map f = .ok b) ↔ ∃ a, x = .ok a := by
  cases x <;> simp [Except.map]

lemma toOption_eq_some {x : Except ε α} {a : α} : x.toOption = some a ↔ x = .ok a := by
  cases x <;> simp [Except.toOption]

/-- A step for each member succeeds exactly if every step does, and collects what they give. -/
lemma mapM_eq_ok {f : α → Except ε β} {l : List α} {ys : List β} :
    l.mapM f = .ok ys ↔ List.Forall₂ (fun x y => f x = .ok y) l ys := by
  induction l generalizing ys with
  | nil =>
    rw [List.mapM_nil, pure_eq_ok, List.forall₂_nil_left_iff, eq_comm]
  | cons x l ih =>
    rw [List.mapM_cons, bind_eq_ok, List.forall₂_cons_left_iff]
    constructor
    · rintro ⟨y, hy, h⟩
      obtain ⟨rest, hrest, h⟩ := bind_eq_ok.mp h
      obtain rfl := pure_eq_ok.mp h
      exact ⟨y, rest, hy, ih.mp hrest, rfl⟩
    · rintro ⟨y, rest, hy, hrest, rfl⟩
      exact ⟨y, hy, bind_eq_ok.mpr ⟨rest, ih.mpr hrest, rfl⟩⟩

lemma mapM_eq_map {f : α → Except ε β} {g : α → β} {l : List α} (h : ∀ x ∈ l, f x = .ok (g x)) :
    l.mapM f = .ok (l.map g) := by
  rw [mapM_eq_ok, List.forall₂_map_right_iff]
  exact List.forall₂_same.mpr h

lemma exists_mapM_eq_ok {f : α → Except ε β} {l : List α} (h : ∀ x ∈ l, ∃ y, f x = .ok y) :
    ∃ ys, l.mapM f = .ok ys := by
  induction l with
  | nil => exact ⟨[], rfl⟩
  | cons x l ih =>
    obtain ⟨y, hy⟩ := h x List.mem_cons_self
    obtain ⟨ys, hys⟩ := ih (fun x hx => h x (List.mem_cons_of_mem _ hx))
    exact ⟨y :: ys, mapM_eq_ok.mpr (.cons hy (mapM_eq_ok.mp hys))⟩

/-- A step for each member fails as the first step does that fails; those before it succeed. -/
lemma mapM_eq_error {f : α → Except ε β} {l : List α} {e : ε} :
    l.mapM f = .error e ↔ ∃ before x after, l = before ++ x :: after ∧
      (∀ y ∈ before, ∃ b, f y = .ok b) ∧ f x = .error e := by
  constructor
  · intro h
    induction l with
    | nil => cases h
    | cons x l ih =>
      rw [List.mapM_cons] at h
      cases hx : f x with
      | error e' =>
        rw [hx] at h
        obtain rfl : e' = e := Except.error.inj h
        exact ⟨[], x, l, rfl, by simp, hx⟩
      | ok b =>
        cases hl : l.mapM f with
        | error e' =>
          rw [hx, hl] at h
          obtain rfl : e' = e := Except.error.inj h
          obtain ⟨before, y, after, rfl, hbefore, hy⟩ := ih hl
          exact ⟨x :: before, y, after, rfl, List.forall_mem_cons.mpr ⟨⟨b, hx⟩, hbefore⟩, hy⟩
        | ok bs =>
          rw [hx, hl] at h
          cases h
  · rintro ⟨before, x, after, rfl, hbefore, hx⟩
    obtain ⟨bs, hbs⟩ := exists_mapM_eq_ok hbefore
    rw [List.mapM_append, hbs, List.mapM_cons, hx]
    rfl

/-- Two traversals whose steps succeed alike, and whose errors correspond at every member, end with
corresponding errors. -/
lemma mapM_eq_error_congr {f : α → Except ε β} {g : α → Except ε' γ} {l : List α} {e : ε}
    {P : ε' → Prop} (hok : ∀ x ∈ l, (∃ b, f x = .ok b) ↔ ∃ c, g x = .ok c)
    (herror : ∀ x ∈ l, f x = .error e ↔ ∃ e', g x = .error e' ∧ P e') :
    l.mapM f = .error e ↔ ∃ e', l.mapM g = .error e' ∧ P e' := by
  simp only [mapM_eq_error]
  constructor
  · rintro ⟨before, x, after, rfl, hbefore, hx⟩
    obtain ⟨e', hx', he'⟩ := (herror x (by simp)).mp hx
    refine ⟨e', ⟨before, x, after, rfl, fun y hy => ?_, hx'⟩, he'⟩
    exact (hok y (List.mem_append_left _ hy)).mp (hbefore y hy)
  · rintro ⟨e', ⟨before, x, after, rfl, hbefore, hx'⟩, he'⟩
    refine ⟨before, x, after, rfl, fun y hy => ?_, (herror x (by simp)).mpr ⟨e', hx', he'⟩⟩
    exact (hok y (List.mem_append_left _ hy)).mpr (hbefore y hy)

lemma filterM_eq_filter {f : α → Except ε Bool} {p : α → Bool} {l : List α}
    (h : ∀ x ∈ l, f x = .ok (p x)) : l.filterM f = .ok (l.filter p) := by
  have haux : ∀ acc, l.filterAuxM f acc = .ok ((l.filter p).reverse ++ acc) := by
    induction l with
    | nil => exact fun acc => rfl
    | cons x l ih =>
      intro acc
      rw [List.filterAuxM]
      refine bind_eq_ok.mpr ⟨p x, h x List.mem_cons_self, ?_⟩
      rw [ih fun y hy => h y (List.mem_cons_of_mem x hy), List.filter_cons]
      cases p x <;> simp
  unfold List.filterM
  exact bind_eq_ok.mpr ⟨_, haux [], by simp⟩

lemma mapM_congr {f g : α → Except ε β} {l : List α} (h : ∀ x ∈ l, f x = g x) :
    l.mapM f = l.mapM g := by
  induction l with
  | nil => rfl
  | cons x l ih =>
    rw [List.mapM_cons, List.mapM_cons, h x List.mem_cons_self,
      ih fun y hy => h y (List.mem_cons_of_mem x hy)]

/-- What a step for each member keeps are members that the step says to keep. -/
lemma of_mem_filterM {f : α → Except ε Bool} {l kept : List α} (h : l.filterM f = .ok kept) :
    ∀ y ∈ kept, y ∈ l ∧ f y = .ok true := by
  have haux : ∀ acc kept, l.filterAuxM f acc = .ok kept →
      ∀ y ∈ kept, y ∈ acc ∨ y ∈ l ∧ f y = .ok true := by
    clear h
    induction l with
    | nil =>
      intro acc kept h y hy
      obtain rfl := pure_eq_ok.mp h
      exact .inl hy
    | cons x l ih =>
      intro acc kept h y hy
      rw [List.filterAuxM, bind_eq_ok] at h
      obtain ⟨keep, hkeep, h⟩ := h
      rcases ih _ kept h y hy with hacc | ⟨hmem, htrue⟩
      · cases keep with
        | false => exact .inl hacc
        | true =>
          rcases List.mem_cons.mp hacc with rfl | hacc
          · exact .inr ⟨List.mem_cons_self, hkeep⟩
          · exact .inl hacc
      · exact .inr ⟨List.mem_cons_of_mem x hmem, htrue⟩
  obtain ⟨reversed, hreversed, h⟩ := bind_eq_ok.mp h
  obtain rfl := pure_eq_ok.mp h
  intro y hy
  rcases haux [] reversed hreversed y (List.mem_reverse.mp hy) with hnil | hkept
  · cases hnil
  · exact hkept

/-- A run of steps whose errors do not depend on what has been collected fails as the first of them
does that fails. -/
lemma foldlM_eq_error {f : β → α → Except ε β} {fault? : α → Option ε}
    (hstep : ∀ a x e, f a x = .error e ↔ fault? x = some e) {l : List α} {a : β} {e : ε} :
    l.foldlM f a = .error e ↔ l.findSome? fault? = some e := by
  induction l generalizing a with
  | nil => simp [pure, Except.pure]
  | cons x l ih =>
    rw [List.foldlM_cons, List.findSome?_cons, bind_eq_error, hstep]
    cases hx : fault? x with
    | some e' =>
      have herror := (hstep a x e').mpr hx
      simp [herror]
    | none =>
      obtain ⟨next, hnext⟩ : ∃ next, f a x = .ok next := by
        cases hfx : f a x with
        | ok next => exact ⟨next, rfl⟩
        | error e' => cases ((hstep a x e').mp hfx).symm.trans hx
      simp [hnext, ih]

lemma foldlM_count {f : α → Except ε Bool} {p : α → Bool} {l : List α}
    (h : ∀ x ∈ l, f x = .ok (p x)) (count : Nat) :
    l.foldlM (fun count x => do
      if ← f x then return count
      return count + 1) count = .ok (count + (l.filter fun x => !p x).length) := by
  induction l generalizing count with
  | nil => rfl
  | cons x l ih =>
    have hrest := ih fun y hy => h y (List.mem_cons_of_mem x hy)
    rw [List.foldlM_cons, h x List.mem_cons_self, List.filter_cons]
    cases p x with
    | true => exact hrest count
    | false =>
      refine (hrest (count + 1)).trans ?_
      rw [Nat.add_right_comm]
      rfl

lemma guard_eq_ok {c : Prop} [Decidable c] {e : ε} {f : α → Except ε β} {x : Except ε β} {b : β} :
    (if c then (throw e : Except ε α) >>= f else x) = .ok b ↔ ¬c ∧ x = .ok b := by
  by_cases h : c
  · simp [h, bind_eq_ok]
  · simp [h]

/-- Relating the members of a list to what a function gives determines the other list. -/
lemma forall₂_iff_eq_map {R : α → β → Prop} {g : α → β} {l : List α} {ys : List β}
    (h : ∀ x ∈ l, ∀ y, R x y ↔ y = g x) : List.Forall₂ R l ys ↔ ys = l.map g := by
  induction l generalizing ys with
  | nil => rw [List.forall₂_nil_left_iff, List.map_nil]
  | cons x l ih =>
    rw [List.forall₂_cons_left_iff, List.map_cons]
    have hrest : ∀ zs, List.Forall₂ R l zs ↔ zs = l.map g := fun zs =>
      ih (fun y hy => h y (List.mem_cons_of_mem x hy))
    constructor
    · rintro ⟨y, zs, hy, hzs, rfl⟩
      rw [(h x List.mem_cons_self y).mp hy, (hrest zs).mp hzs]
    · rintro rfl
      exact ⟨g x, l.map g, (h x List.mem_cons_self _).mpr rfl, (hrest _).mpr rfl, rfl⟩

lemma exists_of_mem_left {R : α → β → Prop} {xs : List α} {ys : List β}
    (h : List.Forall₂ R xs ys) {x : α} (hx : x ∈ xs) : ∃ y ∈ ys, R x y := by
  induction h with
  | nil => simp at hx
  | @cons x' y xs ys hxy _ ih =>
    rcases List.mem_cons.mp hx with rfl | hx
    · exact ⟨y, List.mem_cons_self, hxy⟩
    · obtain ⟨z, hz, hxz⟩ := ih hx
      exact ⟨z, List.mem_cons_of_mem _ hz, hxz⟩

lemma exists_of_mem_right {R : α → β → Prop} {xs : List α} {ys : List β}
    (h : List.Forall₂ R xs ys) {y : β} (hy : y ∈ ys) : ∃ x ∈ xs, R x y :=
  exists_of_mem_left (R := flip R) (List.Forall₂.flip h) hy

lemma exists_mapM_eq_ok_iff {f : α → Except ε β} {l : List α} :
    (∃ ys, l.mapM f = .ok ys) ↔ ∀ x ∈ l, ∃ y, f x = .ok y := by
  refine ⟨?_, exists_mapM_eq_ok⟩
  rintro ⟨ys, hys⟩ x hx
  obtain ⟨y, -, hy⟩ := exists_of_mem_left (mapM_eq_ok.mp hys) hx
  exact ⟨y, hy⟩

end TypedTables.Proofs
