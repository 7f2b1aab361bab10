import Mathlib.Tactic

/-!
# Parsing expressions

Patterns with ordered choice and greedy repetition, and rules that may call each other. Matching a
pattern has one outcome at most (`matches_unique`): it fails, or it matches a front of the input and
gives the spans of the rules that it went through. A pattern that goes on forever has no outcome, so
an outcome also says that matching ends.
-/

namespace TypedTables

namespace Grammar

/-- Patterns over the names of rules. `start` matches nothing, but only at the start of a source;
`notAhead` matches nothing, but only where its pattern fails. -/
inductive Pattern (ρ : Type)
  | start
  | any
  | literal (text : List Char)
  | rule (name : ρ)
  | seq (first second : Pattern ρ)
  | choice (first second : Pattern ρ)
  | star (inner : Pattern ρ)
  | notAhead (inner : Pattern ρ)

namespace Pattern

def empty {ρ : Type} : Pattern ρ := literal []

def optional {ρ : Type} (p : Pattern ρ) : Pattern ρ := choice p empty

end Pattern

/-- What a rule matched, with the spans of the rules in it. -/
structure Span (ρ : Type) where
  rule : ρ
  text : List Char
  inner : List (Span ρ)

/-- Matching an input gives spans and what is left of the input, or it fails. -/
abbrev Outcome (ρ : Type) := Option (List (Span ρ) × List Char)

variable {ρ : Type}

open Pattern

/-- `Matches grammar source p input outcome`: matching `p` at `input`, a tail of `source`, ends with
`outcome`. A repetition goes on until its body fails, and gives nothing back after that. Where its
body matches without taking anything it would go on forever, so it has no outcome there. -/
inductive Matches (grammar : ρ → Pattern ρ) (source : List Char) :
    Pattern ρ → List Char → Outcome ρ → Prop
  | start : Matches grammar source start source (some ([], source))
  | start_fails {input} (h : input ≠ source) : Matches grammar source start input none
  | any (c rest) : Matches grammar source any (c :: rest) (some ([], rest))
  | any_fails : Matches grammar source any [] none
  | literal {text input rest} (h : input = text ++ rest) :
      Matches grammar source (literal text) input (some ([], rest))
  | literal_fails {text input} (h : ¬text <+: input) :
      Matches grammar source (literal text) input none
  | rule {name input text rest inner} (htext : input = text ++ rest)
      (h : Matches grammar source (grammar name) input (some (inner, rest))) :
      Matches grammar source (rule name) input (some ([⟨name, text, inner⟩], rest))
  | rule_fails {name input} (h : Matches grammar source (grammar name) input none) :
      Matches grammar source (rule name) input none
  | seq {p q input between rest first second}
      (hp : Matches grammar source p input (some (first, between)))
      (hq : Matches grammar source q between (some (second, rest))) :
      Matches grammar source (seq p q) input (some (first ++ second, rest))
  | seq_fails_first {p q input} (hp : Matches grammar source p input none) :
      Matches grammar source (seq p q) input none
  | seq_fails_second {p q input between first}
      (hp : Matches grammar source p input (some (first, between)))
      (hq : Matches grammar source q between none) : Matches grammar source (seq p q) input none
  | choice_first {p q input found} (hp : Matches grammar source p input (some found)) :
      Matches grammar source (choice p q) input (some found)
  | choice_second {p q input outcome} (hp : Matches grammar source p input none)
      (hq : Matches grammar source q input outcome) :
      Matches grammar source (choice p q) input outcome
  | star_stop {p input} (hp : Matches grammar source p input none) :
      Matches grammar source (star p) input (some ([], input))
  | star_step {p input between rest first others}
      (hp : Matches grammar source p input (some (first, between)))
      (hrest : Matches grammar source (star p) between (some (others, rest))) :
      Matches grammar source (star p) input (some (first ++ others, rest))
  | notAhead {p input} (hp : Matches grammar source p input none) :
      Matches grammar source (notAhead p) input (some ([], input))
  | notAhead_fails {p input found} (hp : Matches grammar source p input (some found)) :
      Matches grammar source (notAhead p) input none

end Grammar

namespace Proofs

open Grammar

variable {ρ : Type} {grammar : ρ → Pattern ρ} {source input : List Char}

lemma literal_fails_of_head {c : Char} {text : List Char} (h : ∀ d ∈ input.head?, d ≠ c) :
    Matches grammar source (.literal (c :: text)) input none := by
  refine .literal_fails ?_
  rintro ⟨rest, rfl⟩
  exact h c rfl rfl

/-- Matching has one outcome at most. -/
theorem matches_unique {p : Pattern ρ} {outcome outcome' : Outcome ρ}
    (h : Matches grammar source p input outcome)
    (h' : Matches grammar source p input outcome') : outcome = outcome' := by
  induction h generalizing outcome' with
  | start =>
    cases h' with
    | start => rfl
    | start_fails h => exact absurd rfl h
  | start_fails h =>
    cases h' with
    | start => exact absurd rfl h
    | start_fails => rfl
  | any => cases h'; rfl
  | any_fails => cases h'; rfl
  | literal h =>
    cases h' with
    | literal h' => simpa [h] using h'
    | literal_fails h' => exact absurd ⟨_, h.symm⟩ h'
  | literal_fails h =>
    cases h' with
    | literal h' => exact absurd ⟨_, h'.symm⟩ h
    | literal_fails => rfl
  | rule htext _ ih =>
    cases h' with
    | rule htext' h' =>
      have := ih h'
      simp_all
    | rule_fails h' => cases ih h'
  | rule_fails _ ih =>
    cases h' with
    | rule _ h' => cases ih h'
    | rule_fails => rfl
  | seq _ _ ihp ihq =>
    cases h' with
    | seq hp hq =>
      cases ihp hp
      cases ihq hq
      rfl
    | seq_fails_first hp => cases ihp hp
    | seq_fails_second hp hq =>
      cases ihp hp
      cases ihq hq
  | seq_fails_first _ ihp =>
    cases h' with
    | seq hp => cases ihp hp
    | seq_fails_first => rfl
    | seq_fails_second => rfl
  | seq_fails_second _ _ ihp ihq =>
    cases h' with
    | seq hp hq =>
      cases ihp hp
      cases ihq hq
    | seq_fails_first => rfl
    | seq_fails_second => rfl
  | choice_first _ ihp =>
    cases h' with
    | choice_first hp => exact ihp hp
    | choice_second hp => cases ihp hp
  | choice_second _ _ ihp ihq =>
    cases h' with
    | choice_first hp => cases ihp hp
    | choice_second _ hq => exact ihq hq
  | star_stop _ ihp =>
    cases h' with
    | star_stop => rfl
    | star_step hp => cases ihp hp
  | star_step _ _ ihp ihrest =>
    cases h' with
    | star_stop hp => cases ihp hp
    | star_step hp hrest =>
      cases ihp hp
      cases ihrest hrest
      rfl
  | notAhead _ ihp =>
    cases h' with
    | notAhead => rfl
    | notAhead_fails hp => cases ihp hp
  | notAhead_fails _ ihp =>
    cases h' with
    | notAhead hp => cases ihp hp
    | notAhead_fails => rfl

end Proofs

end TypedTables
