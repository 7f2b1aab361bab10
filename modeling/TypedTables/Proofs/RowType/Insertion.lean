import TypedTables.Proofs.RowType.Template

/-!
# What is put into a template

Placeholders are replaced one after the other, in a text that already holds the values of those
before, so that a step also works on what has been put in. Main statement: unless this joins lines of
what has been put in, it is the same as replacing all placeholders of the template at once, each by
its value with the placeholders behind it replaced. A text is followed line by line, since no
placeholder goes over the end of a line.
-/

namespace TypedTables

open Text (replaceAll replaceFrom)

namespace Template

/-- A placeholder. -/
structure Hole where
  token : String
  /-- Whether it has a line to itself, which goes with it if there is nothing to put in. -/
  ownsLine : Bool

/-- A placeholder with what is put in its place. -/
structure Slot extends Hole where
  value : String

namespace Slot

variable (s : Slot)

def fill (text : List Char) : List Char :=
  if s.ownsLine then fillBlock s.token s.value text else Template.fill s.token s.value text

/-- The text with the value in place of the token, wherever that stands. -/
def replaceIn (text : List Char) : List Char := replaceAll s.token.toList s.value.toList text

/-- Whether the line of the placeholder goes. -/
def dropsLine : Bool := s.ownsLine && s.value.isEmpty

/-- How much of a text goes that begins with the placeholder. -/
def width (text : List Char) : Nat :=
  if s.dropsLine && (s.token.toList ++ ['\n']).isPrefixOf text then s.token.toList.length + 1
  else s.token.toList.length

end Slot

/-- A slot with the text that stands in its place in the end. -/
structure Insertion extends Slot where
  text : List Char

/-- What the values of slots become: the placeholders behind are replaced in them, too. -/
def insertions : List Slot → List Insertion
  | [] => []
  | s :: later => ⟨s, later.foldl (fun text s => s.replaceIn text) s.value.toList⟩ :: insertions later

/-- Copies a text with each placeholder replaced. What is put in is copied, too, and what follows is
looked for behind it. The counter holds how many characters are still to be skipped. -/
def substituteFrom (inserted : List Insertion) : Nat → List Char → List Char
  | _, [] => []
  | skip + 1, _ :: rest => substituteFrom inserted skip rest
  | 0, c :: rest =>
    match inserted.find? fun i => i.token.toList.isPrefixOf (c :: rest) with
    | some i => i.text ++ substituteFrom inserted (i.width (c :: rest) - 1) rest
    | none => c :: substituteFrom inserted 0 rest

def substitute (inserted : List Insertion) (text : List Char) : List Char :=
  substituteFrom inserted 0 text

end Template

namespace Proofs

open Template (Hole Slot Insertion insertions substitute substituteFrom)

/-- Whether no placeholder that takes its line with it comes up at the end of a line of a text, or at
the end of the text itself, as slots are filled. Elsewhere in a line nothing but the placeholder
goes. -/
def SparesLines : List Slot → List Char → Prop
  | [], _ => True
  | s :: later, text =>
    (s.dropsLine = true → ¬s.token.toList ++ ['\n'] <:+: text ++ ['\n']) ∧
      SparesLines later (s.replaceIn text)

/-- Whether the end of a line goes only where a template has the placeholder of an empty block, and
not where a value holds it. -/
def DropsOwnLines : List Slot → Prop
  | [] => True
  | s :: later => SparesLines later s.value.toList ∧ DropsOwnLines later

/-! ### Lines -/

/-- A line as it is filled: one that no placeholder is left in, what stands around a placeholder, or
what stands around that which has been put in its place. -/
inductive Line where
  | settled (text : List Char)
  | holding (before token after : List Char)
  | filled (before text after : List Char)

/-- Whether a text ends where a line does. -/
def EndsLine (text : List Char) : Prop := ∀ c ∈ text.getLast?, c = '\n'

/-- Whether a placeholder is found neither in two texts nor across their borders to what stands
between them. -/
structure IsApart (h : Hole) (before after : List Char) : Prop where
  notBefore : ¬h.token.toList <:+: before
  notAfter : ¬h.token.toList <:+: after
  left : ∀ c ∈ before.getLast?, c ∉ h.token.toList
  right : ∀ c ∈ after.head?, c ∉ h.token.toList

/-- Whether a placeholder is not found around another one, and in it only if it is that one. -/
structure Surrounds (h : Hole) (before token after : List Char) : Prop
    extends IsApart h before after where
  eq_of_found : h.token.toList <:+: token → token = h.token.toList
  owns : h.ownsLine = true → token = h.token.toList → before = [] ∧ after = ['\n']

/-- Comes before the instance that goes through all characters. -/
instance (priority := high) decidableForallMemOption {α : Type} (p : α → Prop) [DecidablePred p] :
    (a? : Option α) → Decidable (∀ a ∈ a?, p a)
  | none => isTrue nofun
  | some a => decidable_of_iff (p a) (by simp)

instance (h : Hole) (before token after : List Char) : Decidable (Surrounds h before token after) :=
  decidable_of_iff ((¬h.token.toList <:+: before) ∧ (¬h.token.toList <:+: after) ∧
      (∀ c ∈ before.getLast?, c ∉ h.token.toList) ∧ (∀ c ∈ after.head?, c ∉ h.token.toList) ∧
      (h.token.toList <:+: token → token = h.token.toList) ∧
      (h.ownsLine = true → token = h.token.toList → before = [] ∧ after = ['\n']))
    ⟨fun ⟨h₁, h₂, h₃, h₄, h₅, h₆⟩ => ⟨⟨h₁, h₂, h₃, h₄⟩, h₅, h₆⟩,
      fun ⟨⟨h₁, h₂, h₃, h₄⟩, h₅, h₆⟩ => ⟨h₁, h₂, h₃, h₄, h₅, h₆⟩⟩

namespace Line

def text : Line → List Char
  | settled text => text
  | holding before token after => before ++ (token ++ after)
  | filled before text after => before ++ (text ++ after)

/-- The placeholder that a line holds. -/
def token? : Line → Option (List Char)
  | holding _ token _ => some token
  | _ => none

/-- The line with a slot filled, if it holds the placeholder, or something put in does. -/
def put (s : Slot) : Line → Line
  | settled text => settled text
  | holding before token after =>
    if token = s.token.toList then
      if s.dropsLine then settled [] else filled before s.value.toList after
    else holding before token after
  | filled before text after => filled before (s.replaceIn text) after

def putAll (slots : List Slot) (l : Line) : Line := slots.foldl (fun l s => l.put s) l

/-- Whether placeholders are found in a line of a template where they stand and nowhere else. -/
def IsReady (holes : List Hole) : Line → Prop
  | settled text => EndsLine text ∧ ∀ h ∈ holes, ¬h.token.toList <:+: text
  | holding before token after =>
    after.getLast? = some '\n' ∧ ∀ h ∈ holes, Surrounds h before token after
  | filled _ _ _ => False

instance (holes : List Hole) : DecidablePred (IsReady holes)
  | settled text => inferInstanceAs (Decidable
      ((∀ c ∈ text.getLast?, c = '\n') ∧ ∀ h ∈ holes, ¬h.token.toList <:+: text))
  | holding before token after => inferInstanceAs (Decidable
      (after.getLast? = some '\n' ∧ ∀ h ∈ holes, Surrounds h before token after))
  | filled _ _ _ => inferInstanceAs (Decidable False)

/-- What holds of a line while the slots are still to be filled. -/
def IsSound (slots : List Slot) : Line → Prop
  | filled before text after => after.getLast? = some '\n' ∧
      (∀ s ∈ slots, IsApart s.toHole before after) ∧ SparesLines slots text
  | l => l.IsReady (slots.map Slot.toHole)

end Line

variable {s : Slot} {slots later : List Slot} {i : Insertion} {inserted : List Insertion}
  {h : Hole} {holes : List Hole} {l : Line} {before token after text front back : List Char}

lemma endsLine_nil : EndsLine [] := fun _ hc => nomatch hc

lemma endsLine_append (h : after.getLast? = some '\n') (front : List Char) :
    EndsLine (front ++ after) := by
  intro c hc
  rw [List.getLast?_append, h] at hc
  exact (Option.some.inj hc).symm

/-- Tokens stand within a line. -/
structure IsToken (h : Hole) : Prop where
  ne_nil : h.token.toList ≠ []
  line : '\n' ∉ h.token.toList

lemma EndsLine.isBorder (htext : EndsLine text) (hline : '\n' ∉ token.dropLast) (back : List Char) :
    IsBorder token text back :=
  isBorder_of_getLast fun c hc => htext c hc ▸ hline

lemma IsToken.isBorder (htoken : IsToken h) (htext : EndsLine text) (back : List Char) :
    IsBorder h.token.toList text back :=
  htext.isBorder (fun hmem => htoken.line (List.mem_of_mem_dropLast hmem)) back

/-- Replacing goes line by line. -/
lemma replaceAll_flatMap {token value : List Char} {lines : List Line} {f : Line → List Char}
    (hends : ∀ l ∈ lines, EndsLine (f l)) (hline : '\n' ∉ token.dropLast) :
    replaceAll token value (lines.flatMap f) = lines.flatMap fun l => replaceAll token value (f l) := by
  induction lines with
  | nil => rfl
  | cons l lines ih =>
    obtain ⟨hfirst, hends⟩ := List.forall_mem_cons.mp hends
    rw [List.flatMap_cons, List.flatMap_cons, replaceAll,
      (hfirst.isBorder hline _).replaceFrom_append (Nat.zero_le _), ← replaceAll, ← replaceAll,
      ih hends]

namespace IsApart

variable (hapart : IsApart h before after)

include hapart

lemma isBorder_left (back : List Char) : IsBorder h.token.toList before back :=
  isBorder_of_getLast fun c hc hmem => hapart.left c hc (List.mem_of_mem_dropLast hmem)

lemma infix_iff (mid : List Char) :
    h.token.toList <:+: before ++ (mid ++ after) ↔ h.token.toList <:+: mid := by
  rw [(hapart.isBorder_left _).infix_append_iff, (isBorder_of_head hapart.right).infix_append_iff]
  simp only [hapart.notBefore, hapart.notAfter, false_or, or_false]

lemma replaceAll_eq (value mid : List Char) :
    replaceAll h.token.toList value (before ++ (mid ++ after)) =
      before ++ (replaceAll h.token.toList value mid ++ after) := by
  rw [replaceAll, (hapart.isBorder_left _).replaceFrom_append (Nat.zero_le _),
    (isBorder_of_head hapart.right).replaceFrom_append (Nat.zero_le _), ← replaceAll, ← replaceAll,
    ← replaceAll, replaceAll_eq_self hapart.notBefore, replaceAll_eq_self hapart.notAfter]

end IsApart

/-! ### A line and a slot -/

lemma isSound_of_isReady (hready : l.IsReady (slots.map Slot.toHole)) : l.IsSound slots := by
  cases l with
  | settled text => exact hready
  | holding before token after => exact hready
  | filled before text after => exact hready.elim

lemma endsLine_text (hsound : l.IsSound slots) : EndsLine l.text := by
  cases l with
  | settled text => exact hsound.1
  | holding before mid after | filled before mid after =>
    rw [Line.text, ← List.append_assoc]
    exact endsLine_append hsound.1 _

lemma replaceIn_text (htoken : IsToken s.toHole) (hsound : l.IsSound (s :: later))
    (hkeeps : s.dropsLine = true → l.token? ≠ some s.token.toList) :
    s.replaceIn l.text = (l.put s).text := by
  cases l with
  | settled text => exact replaceAll_eq_self (hsound.2 _ List.mem_cons_self)
  | holding before token after =>
    have hsurrounds := hsound.2 _ List.mem_cons_self
    rw [Line.text, Slot.replaceIn, hsurrounds.replaceAll_eq, Line.put]
    by_cases heq : token = s.token.toList
    · have hvalue : replaceAll s.token.toList s.value.toList (s.token.toList ++ []) =
          s.value.toList ++ [] := replaceAll_token_append htoken.ne_nil
        (fun hfound => htoken.ne_nil (List.infix_nil.mp hfound))
      rw [List.append_nil, List.append_nil] at hvalue
      have hstays : ¬s.dropsLine = true := fun hdrops => hkeeps hdrops (congrArg some heq)
      rw [heq, if_pos rfl, if_neg hstays, hvalue]
      rfl
    · rw [if_neg heq, replaceAll_eq_self (mt hsurrounds.eq_of_found heq)]
      rfl
  | filled before text after => exact (hsound.2.1 _ List.mem_cons_self).replaceAll_eq _ _

/-- A placeholder that takes its line with it is all of the line that holds it. -/
lemma text_of_holding (hsound : l.IsSound (s :: later)) (hdrops : s.dropsLine = true)
    (hholds : l.token? = some s.token.toList) :
    l.text = s.token.toList ++ ['\n'] ∧ (l.put s).text = [] := by
  cases l with
  | holding before token after =>
    obtain rfl : token = s.token.toList := Option.some.inj hholds
    have hsurrounds := hsound.2 _ List.mem_cons_self
    obtain ⟨rfl, rfl⟩ := hsurrounds.owns (Bool.and_eq_true_iff.mp hdrops).1 rfl
    rw [Line.put, if_pos rfl, hdrops]
    exact ⟨rfl, rfl⟩
  | _ => cases hholds

/-- Behind what has been put in, a line goes on with something that is in no placeholder. -/
lemma IsApart.not_infix_line (hapart : IsApart h before after)
    (hfree : ¬h.token.toList ++ ['\n'] <:+: text ++ ['\n']) :
    ¬h.token.toList ++ ['\n'] <:+: before ++ (text ++ after) := by
  have hborder : IsBorder (h.token.toList ++ ['\n']) before (text ++ after) :=
    isBorder_of_getLast fun c hc => by simpa using hapart.left c hc
  have htoken : h.token.toList <:+: h.token.toList ++ ['\n'] := (List.prefix_append _ _).isInfix
  rw [hborder.infix_append_iff, List.infix_append_iff]
  rintro (hbefore | htext | hafter | ⟨x, y, hxy, hx, hy⟩)
  · exact hapart.notBefore (htoken.trans hbefore)
  · exact hfree (htext.trans (List.prefix_append _ _).isInfix)
  · exact hapart.notAfter (htoken.trans hafter)
  -- What reaches beyond the text is the end of a line alone.
  · rcases List.eq_nil_or_concat' y with rfl | ⟨y, c, rfl⟩
    · rw [List.append_nil] at hxy
      exact hfree (hxy ▸ hx.isInfix.trans (List.prefix_append _ _).isInfix)
    · rw [← List.append_assoc] at hxy
      obtain ⟨htoken, hc⟩ := List.append_inj' hxy rfl
      cases y with
      | nil =>
        rw [List.append_nil] at htoken
        exact hfree (htoken ▸ ((List.suffix_append_inj_of_length_eq rfl).mpr ⟨hx, rfl⟩).isInfix)
      | cons d y =>
        obtain ⟨rest, rfl⟩ := hy
        exact hapart.right d rfl (htoken ▸ List.mem_append_right x List.mem_cons_self)

lemma not_infix_text (hsound : l.IsSound (s :: later)) (hdrops : s.dropsLine = true)
    (hother : l.token? ≠ some s.token.toList) : ¬s.token.toList ++ ['\n'] <:+: l.text := by
  have htoken : s.token.toList <:+: s.token.toList ++ ['\n'] := (List.prefix_append _ _).isInfix
  cases l with
  | settled text => exact fun hfound => hsound.2 _ List.mem_cons_self (htoken.trans hfound)
  | holding before token after =>
    have hsurrounds := hsound.2 _ List.mem_cons_self
    intro hfound
    have hheld := (hsurrounds.infix_iff token).mp (htoken.trans hfound)
    exact hother (congrArg some (hsurrounds.eq_of_found hheld))
  | filled before text after =>
    obtain ⟨-, hapart, hfree, -⟩ := hsound
    exact (hapart s List.mem_cons_self).not_infix_line (hfree hdrops)

/-- An empty block first takes the line that holds its placeholder, and then what is left of the
placeholder elsewhere. -/
lemma replaceAll_line (htoken : IsToken s.toHole) (hsound : l.IsSound (s :: later))
    (hdrops : s.dropsLine = true) :
    let rest := replaceAll (s.token.toList ++ ['\n']) [] l.text
    EndsLine rest ∧ replaceAll s.token.toList [] rest = (l.put s).text := by
  by_cases hholds : l.token? = some s.token.toList
  · obtain ⟨htext, hput⟩ := text_of_holding hsound hdrops hholds
    have hline : replaceAll (s.token.toList ++ ['\n']) [] (s.token.toList ++ ['\n'] ++ []) = [] :=
      replaceAll_token_append (by simp) (by simp)
    rw [List.append_nil] at hline
    rw [htext, hput, hline]
    exact ⟨endsLine_nil, rfl⟩
  · have hvalue : s.value.toList = [] := by
      simpa using (Bool.and_eq_true_iff.mp hdrops).2
    rw [replaceAll_eq_self (not_infix_text hsound hdrops hholds),
      ← replaceIn_text htoken hsound fun _ => hholds, Slot.replaceIn, hvalue]
    exact ⟨endsLine_text hsound, rfl⟩

lemma isSound_put (htokens : ∀ s ∈ later, IsToken s.toHole) (hsound : l.IsSound (s :: later))
    (hvalue : SparesLines later s.value.toList) : (l.put s).IsSound later := by
  cases l with
  | settled text => exact ⟨hsound.1, fun h hmem => hsound.2 h (List.mem_cons_of_mem _ hmem)⟩
  | holding before token after =>
    rw [Line.put]
    split
    · split
      · refine ⟨endsLine_nil, List.forall_mem_map.mpr fun s' hs' hfound => ?_⟩
        exact (htokens s' hs').ne_nil (List.infix_nil.mp hfound)
      · refine ⟨hsound.1, fun s' hs' => ?_, hvalue⟩
        exact (hsound.2 _ (List.mem_cons_of_mem _ (List.mem_map_of_mem hs'))).toIsApart
    · exact ⟨hsound.1, fun h hmem => hsound.2 h (List.mem_cons_of_mem _ hmem)⟩
  | filled before text after =>
    obtain ⟨hlast, hapart, -, hspares⟩ := hsound
    exact ⟨hlast, fun s' hs' => hapart s' (List.mem_cons_of_mem _ hs'), hspares⟩

/-! ### One slot after the other -/

lemma fill_eq (s : Slot) (text : List Char) : s.fill text =
    if s.dropsLine then replaceAll s.token.toList [] (replaceAll (s.token.toList ++ ['\n']) [] text)
    else s.replaceIn text := by
  unfold Slot.fill Slot.dropsLine Slot.replaceIn Template.fillBlock Template.fill
  cases s.ownsLine <;> cases s.value.isEmpty <;> simp

lemma fill_flatMap {lines : List Line} (htoken : IsToken s.toHole)
    (hsound : ∀ l ∈ lines, l.IsSound (s :: later)) :
    s.fill (lines.flatMap Line.text) = lines.flatMap fun l => (l.put s).text := by
  have hline : '\n' ∉ s.token.toList.dropLast := fun hmem =>
    htoken.line (List.mem_of_mem_dropLast hmem)
  have hends : ∀ l ∈ lines, EndsLine l.text := fun l hl => endsLine_text (hsound l hl)
  rw [fill_eq]
  split
  · next hdrops =>
    have hdropped := fun l hl => replaceAll_line htoken (hsound l hl) hdrops
    rw [replaceAll_flatMap hends (by simpa using htoken.line),
      replaceAll_flatMap (fun l hl => (hdropped l hl).1) hline]
    exact List.flatMap_congr fun l hl => (hdropped l hl).2
  · next hkeeps =>
    rw [Slot.replaceIn, replaceAll_flatMap hends hline]
    exact List.flatMap_congr fun l hl =>
      replaceIn_text htoken (hsound l hl) fun hdrops => absurd hdrops hkeeps

lemma foldl_fill {lines : List Line} (htokens : ∀ s ∈ slots, IsToken s.toHole)
    (hsound : ∀ l ∈ lines, l.IsSound slots) (hdrops : DropsOwnLines slots) :
    slots.foldl (fun text s => s.fill text) (lines.flatMap Line.text) =
      lines.flatMap fun l => (l.putAll slots).text := by
  induction slots generalizing lines with
  | nil => rfl
  | cons s slots ih =>
    obtain ⟨hvalue, hdrops⟩ := hdrops
    obtain ⟨htoken, htokens⟩ := List.forall_mem_cons.mp htokens
    have hput : ∀ l ∈ lines.map (Line.put s), l.IsSound slots :=
      List.forall_mem_map.mpr fun l hl => isSound_put htokens (hsound l hl) hvalue
    rw [List.foldl_cons, fill_flatMap htoken hsound, ← List.flatMap_map, ih htokens hput hdrops,
      List.flatMap_map]
    rfl

/-! ### All placeholders at once -/

/-- The text of a line in which all placeholders are replaced at once. -/
def Line.inserting (inserted : List Insertion) : Line → List Char
  | holding before token after =>
    match inserted.find? fun i => token == i.token.toList with
    | some i => if i.dropsLine then i.text else before ++ (i.text ++ after)
    | none => before ++ (token ++ after)
  | l => l.text

lemma map_toSlot_insertions (slots : List Slot) :
    (insertions slots).map Insertion.toSlot = slots := by
  induction slots with
  | nil => rfl
  | cons s slots ih => rw [insertions, List.map_cons, ih]

lemma map_toHole_insertions (slots : List Slot) :
    (insertions slots).map (fun i => i.toHole) = slots.map Slot.toHole := by
  conv_rhs => rw [← map_toSlot_insertions slots, List.map_map]
  rfl

lemma putAll_settled (slots : List Slot) (text : List Char) :
    (Line.settled text).putAll slots = .settled text := by
  induction slots with
  | nil => rfl
  | cons s slots ih => exact ih

lemma putAll_filled (slots : List Slot) (before text after : List Char) :
    (Line.filled before text after).putAll slots =
      .filled before (slots.foldl (fun text s => s.replaceIn text) text) after := by
  induction slots generalizing text with
  | nil => rfl
  | cons s slots ih => exact ih _

lemma foldl_replaceIn_nil (slots : List Slot) :
    slots.foldl (fun text s => s.replaceIn text) [] = [] := by
  induction slots with
  | nil => rfl
  | cons s slots ih => exact ih

lemma text_putAll (slots : List Slot) (hready : l.IsReady holes) :
    (l.putAll slots).text = l.inserting (insertions slots) := by
  cases l with
  | settled text => rw [putAll_settled]; rfl
  | filled before text after => exact hready.elim
  | holding before token after =>
    induction slots with
    | nil => rfl
    | cons s slots ih =>
      rw [Line.putAll, List.foldl_cons, ← Line.putAll, Line.put, Line.inserting, insertions,
        List.find?_cons]
      by_cases heq : token = s.token.toList
      · rw [if_pos heq, heq, beq_self_eq_true]
        dsimp only
        split
        · next hdrops =>
          have hvalue : s.value.toList = [] := by
            simpa using (Bool.and_eq_true_iff.mp hdrops).2
          rw [putAll_settled, hvalue, foldl_replaceIn_nil]
          rfl
        · rw [putAll_filled]
          rfl
      · rw [if_neg heq, ih, beq_eq_false_iff_ne.mpr heq]
        rfl

lemma substituteFrom_skip (inserted : List Insertion) (front back : List Char) :
    substituteFrom inserted front.length (front ++ back) = substitute inserted back := by
  induction front with
  | nil => rfl
  | cons c front ih => rw [List.length_cons, List.cons_append, substituteFrom, ih]

/-- A text without placeholders is copied. -/
lemma substitute_append (hfree : ∀ i ∈ inserted, ¬i.token.toList <:+: front)
    (hborder : ∀ i ∈ inserted, IsBorder i.token.toList front back) :
    substitute inserted (front ++ back) = front ++ substitute inserted back := by
  induction front with
  | nil => rfl
  | cons c front ih =>
    have hnone : inserted.find? (fun i => i.token.toList.isPrefixOf (c :: (front ++ back))) = none := by
      refine List.find?_eq_none.mpr fun i hi hfound => hfree i hi ?_
      rw [← List.cons_append, (hborder i hi).isPrefixOf_append (List.cons_ne_nil c front),
        List.isPrefixOf_iff_prefix] at hfound
      exact hfound.isInfix
    have hrest := ih (fun i hi hfound => hfree i hi (List.infix_cons hfound))
      (fun i hi => (hborder i hi).of_suffix (List.suffix_cons c front))
    rw [List.cons_append, substitute, substituteFrom, hnone, ← substitute, hrest, List.cons_append]

/-- Where a placeholder stands, no other one is found. -/
lemma substitute_token (htokens : ∀ i ∈ inserted, IsToken i.toHole)
    (hsurrounds : ∀ i ∈ inserted, Surrounds i.toHole before token after) (hafter : after ≠ [])
    (hfind : inserted.find? (fun i => token == i.token.toList) = some i) (rest : List Char) :
    substitute inserted (token ++ (after ++ rest)) = i.text ++
      substituteFrom inserted (i.width (token ++ (after ++ rest)) - 1)
        (token.tail ++ (after ++ rest)) := by
  obtain rfl : token = i.token.toList := by simpa using List.find?_some hfind
  have hne := (htokens i (List.mem_of_find?_eq_some hfind)).ne_nil
  have hfound : inserted.find? (fun j => j.token.toList.isPrefixOf
      (i.token.toList ++ (after ++ rest))) = some i := by
    rw [← hfind]
    refine List.find?_congr fun j hj => ?_
    have hborder : IsBorder j.token.toList i.token.toList (after ++ rest) := by
      refine isBorder_of_head fun c hc => (hsurrounds j hj).right c ?_
      rwa [List.head?_append_of_ne_nil _ hafter] at hc
    rw [hborder.isPrefixOf_append hne, Bool.eq_iff_iff, List.isPrefixOf_iff_prefix, beq_iff_eq]
    exact ⟨fun hprefix => (hsurrounds j hj).eq_of_found hprefix.isInfix,
      fun heq => heq ▸ List.prefix_rfl⟩
  obtain ⟨c, tail, hcons⟩ := List.exists_cons_of_ne_nil hne
  rw [hcons, List.cons_append] at hfound ⊢
  rw [substitute, substituteFrom, hfound]
  rfl

/-- A line that holds a placeholder gets a text in its place, or goes. -/
lemma substitute_holding (htokens : ∀ i ∈ inserted, IsToken i.toHole)
    (hsurrounds : ∀ i ∈ inserted, Surrounds i.toHole before token after)
    (hlast : after.getLast? = some '\n')
    (hfind : inserted.find? (fun i => token == i.token.toList) = some i) (rest : List Char) :
    substitute inserted (before ++ (token ++ (after ++ rest))) =
      (if i.dropsLine then i.text else before ++ (i.text ++ after)) ++ substitute inserted rest := by
  have hafter : after ≠ [] := by
    rintro rfl
    cases hlast
  obtain rfl : token = i.token.toList := by simpa using List.find?_some hfind
  have hmem := List.mem_of_find?_eq_some hfind
  have hlength : i.token.toList.length - 1 = i.token.toList.tail.length := List.length_tail.symm
  rw [substitute_append (fun j hj => (hsurrounds j hj).notBefore)
    (fun j hj => (hsurrounds j hj).isBorder_left _),
    substitute_token htokens hsurrounds hafter hfind]
  cases hdrops : i.dropsLine with
  | false =>
    have hwidth : i.width (i.token.toList ++ (after ++ rest)) = i.token.toList.length := by
      rw [Slot.width, hdrops]
      rfl
    rw [hwidth, hlength, substituteFrom_skip, substitute_append
      (fun j hj => (hsurrounds j hj).notAfter)
      (fun j hj => (htokens j hj).isBorder (endsLine_append hlast []) rest)]
    simp
  | true =>
    obtain ⟨rfl, rfl⟩ := (hsurrounds i hmem).owns (Bool.and_eq_true_iff.mp hdrops).1 rfl
    have hwidth : i.width (i.token.toList ++ (['\n'] ++ rest)) - 1 =
        (i.token.toList.tail ++ ['\n']).length := by
      have hpos := List.length_pos_iff.mpr (htokens i hmem).ne_nil
      have hfront : (i.token.toList ++ ['\n']).isPrefixOf (i.token.toList ++ (['\n'] ++ rest)) := by
        rw [List.isPrefixOf_iff_prefix, ← List.append_assoc]
        exact List.prefix_append _ _
      rw [Slot.width, hdrops, hfront, List.length_append, ← hlength]
      simp only [Bool.and_self, if_true, List.length_singleton]
      omega
    rw [hwidth, ← List.append_assoc i.token.toList.tail, substituteFrom_skip]
    rfl

/-- Replacing all placeholders at once goes line by line. -/
lemma substitute_line (htokens : ∀ i ∈ inserted, IsToken i.toHole)
    (hready : l.IsReady (inserted.map fun i => i.toHole)) (rest : List Char) :
    substitute inserted (l.text ++ rest) = l.inserting inserted ++ substitute inserted rest := by
  have hborder : ∀ text, EndsLine text → ∀ i ∈ inserted, IsBorder i.token.toList text rest :=
    fun text htext i hi => (htokens i hi).isBorder htext rest
  cases l with
  | settled text =>
    exact substitute_append (fun i hi => hready.2 _ (List.mem_map_of_mem hi)) (hborder _ hready.1)
  | filled before text after => exact hready.elim
  | holding before token after =>
    obtain ⟨hlast, hsurrounds⟩ := hready
    replace hsurrounds : ∀ i ∈ inserted, Surrounds i.toHole before token after :=
      fun i hi => hsurrounds _ (List.mem_map_of_mem hi)
    rw [Line.inserting]
    cases hfind : inserted.find? fun i => token == i.token.toList with
    | none =>
      refine substitute_append (fun i hi hfound => ?_) (hborder _ ?_)
      · rw [Line.text, (hsurrounds i hi).infix_iff] at hfound
        have heq := (hsurrounds i hi).eq_of_found hfound
        exact List.find?_eq_none.mp hfind i hi (beq_iff_eq.mpr heq)
      · rw [Line.text, ← List.append_assoc]
        exact endsLine_append hlast _
    | some i =>
      rw [Line.text, List.append_assoc, List.append_assoc]
      exact substitute_holding htokens hsurrounds hlast hfind rest

lemma substitute_flatMap {lines : List Line} (htokens : ∀ i ∈ inserted, IsToken i.toHole)
    (hready : ∀ l ∈ lines, l.IsReady (inserted.map fun i => i.toHole)) :
    substitute inserted (lines.flatMap Line.text) =
      lines.flatMap fun l => l.inserting inserted := by
  induction lines with
  | nil => rfl
  | cons l lines ih =>
    obtain ⟨hfirst, hready⟩ := List.forall_mem_cons.mp hready
    rw [List.flatMap_cons, List.flatMap_cons, substitute_line htokens hfirst, ih hready]

/-! ### Templates -/

/-- The lines of a text with their ends. -/
def linesOf : List Char → List (List Char)
  | [] => []
  | c :: rest =>
    if c = '\n' then [c] :: linesOf rest
    else
      match linesOf rest with
      | [] => [[c]]
      | line :: lines => (c :: line) :: lines

namespace Line

/-- A line as what stands around the first placeholder in it. -/
def ofText (holes : List Hole) : List Char → Line
  | [] => .settled []
  | c :: rest =>
    match holes.find? fun h => h.token.toList.isPrefixOf (c :: rest) with
    | some h => .holding [] h.token.toList ((c :: rest).drop h.token.toList.length)
    | none =>
      match ofText holes rest with
      | settled text => .settled (c :: text)
      | holding before token after => .holding (c :: before) token after
      | filled before text after => .filled (c :: before) text after

def ofTemplate (holes : List Hole) (template : List Char) : List Line :=
  (linesOf template).map (ofText holes)

end Line

lemma flatten_linesOf (text : List Char) : (linesOf text).flatten = text := by
  induction text with
  | nil => rfl
  | cons c rest ih =>
    rw [linesOf]
    split
    · rw [List.flatten_cons, ih]
      rfl
    · split
      · next hnil => rw [← ih, hnil]; rfl
      · next line lines hcons => rw [← ih, hcons]; rfl

lemma linesOf_line {line : List Char} (hline : '\n' ∉ line) (rest : List Char) :
    linesOf (line ++ '\n' :: rest) = (line ++ ['\n']) :: linesOf rest := by
  induction line with
  | nil => rw [List.nil_append, linesOf, if_pos rfl]; rfl
  | cons c line ih =>
    obtain ⟨hc, hline⟩ := not_or.mp (mt List.mem_cons.mpr hline)
    rw [List.cons_append, linesOf, if_neg (Ne.symm hc), ih hline]
    rfl

/-- Each line of a text that is put together from lines, with its end. -/
lemma linesOf_codeLines {lines : List String} (hlast : lines.getLast? = some "")
    (hlines : ∀ line ∈ lines, '\n' ∉ line.toList) :
    linesOf (codeLines lines).toList = lines.dropLast.map fun line => line.toList ++ ['\n'] := by
  induction lines with
  | nil => cases hlast
  | cons line lines ih =>
    obtain ⟨hline, hlines⟩ := List.forall_mem_cons.mp hlines
    cases lines with
    | nil =>
      obtain rfl : line = "" := Option.some.inj hlast
      rfl
    | cons next lines =>
      have htext : (codeLines (line :: next :: lines)).toList =
          line.toList ++ '\n' :: (codeLines (next :: lines)).toList := by
        simp [codeLines, String.toList_intercalate]
      rw [htext, linesOf_line hline, ih (by simpa using hlast) hlines]
      rfl

lemma text_ofText (holes : List Hole) (text : List Char) : (Line.ofText holes text).text = text := by
  induction text with
  | nil => rfl
  | cons c rest ih =>
    rw [Line.ofText]
    split
    · next h hfind =>
      have hprefix : h.token.toList.isPrefixOf (c :: rest) = true := by simpa using List.find?_some hfind
      exact List.prefix_iff_eq_append.mp (List.isPrefixOf_iff_prefix.mp hprefix)
    · split <;>
        next hrest => rw [← ih, hrest]; rfl

lemma flatMap_ofTemplate (holes : List Hole) (template : List Char) :
    (Line.ofTemplate holes template).flatMap Line.text = template := by
  rw [Line.ofTemplate, List.flatMap_map]
  simp only [text_ofText]
  rw [List.flatMap_id', flatten_linesOf]

/-- Whether the placeholders in a template stand apart from each other, and those with a line to
themselves in one. -/
def IsSpaced (holes : List Hole) (template : List Char) : Prop :=
  ∀ l ∈ Line.ofTemplate holes template, l.IsReady holes

instance (holes : List Hole) (template : List Char) : Decidable (IsSpaced holes template) :=
  inferInstanceAs (Decidable (∀ l ∈ Line.ofTemplate holes template, l.IsReady holes))

/-- In a template whose placeholders stand apart, filling one slot after the other comes to replacing
all placeholders at once. -/
theorem foldl_fill_eq_substitute {template : List Char} (htokens : ∀ s ∈ slots, IsToken s.toHole)
    (hspaced : IsSpaced (slots.map Slot.toHole) template) (hdrops : DropsOwnLines slots) :
    slots.foldl (fun text s => s.fill text) template = substitute (insertions slots) template := by
  have htokens' : ∀ i ∈ insertions slots, IsToken i.toHole := fun i hi =>
    htokens i.toSlot (map_toSlot_insertions slots ▸ List.mem_map_of_mem hi)
  have hsound := fun l hl => isSound_of_isReady (hspaced l hl)
  rw [← flatMap_ofTemplate (slots.map Slot.toHole) template, foldl_fill htokens hsound hdrops,
    substitute_flatMap htokens' (by rwa [map_toHole_insertions])]
  exact List.flatMap_congr fun l hl => text_putAll slots (hspaced l hl)

/-- Of an empty block a line goes in the template, and the placeholder alone in a value. -/
example : substitute (insertions [⟨⟨"A", false⟩, "B, E and A"⟩, ⟨⟨"B", false⟩, "c"⟩,
    ⟨⟨"E", true⟩, ""⟩]) "A, B\nE\n".toList = "c,  and A, c\n".toList := by
  decide +kernel

/-! ### Values -/

lemma infix_of_append_singleton {c d : Char} (h : token ++ [c] <:+: text ++ [d]) :
    token <:+: text := by
  obtain ⟨front, back, heq⟩ := h
  rcases List.eq_nil_or_concat' back with rfl | ⟨back, e, rfl⟩
  · rw [List.append_nil, ← List.append_assoc] at heq
    exact ⟨front, [], by rw [List.append_nil, (List.append_inj' heq rfl).1]⟩
  · rw [← List.append_assoc] at heq
    exact ⟨front, [c] ++ back, by rw [← (List.append_inj' heq rfl).1]; simp⟩

/-- A text without a mark that all placeholders bear is not worked on. -/
lemma sparesLines_of_free {mark : List Char} (hmark : ∀ s ∈ slots, mark <:+: s.token.toList)
    (hfree : ¬mark <:+: text) : SparesLines slots text := by
  induction slots with
  | nil => trivial
  | cons s slots ih =>
    obtain ⟨hfirst, hmark⟩ := List.forall_mem_cons.mp hmark
    have htoken : ¬s.token.toList <:+: text := fun hfound => hfree (hfirst.trans hfound)
    refine ⟨fun _ => mt infix_of_append_singleton htoken, ?_⟩
    rw [Slot.replaceIn, replaceAll_eq_self htoken]
    exact ih hmark

/-- A value without placeholders whose turn is still to come stays as it is. -/
lemma mem_insertions_of_free {earlier : List Slot}
    (hfree : ∀ s' ∈ later, ¬s'.token.toList <:+: s.value.toList) :
    ⟨s, s.value.toList⟩ ∈ insertions (earlier ++ s :: later) := by
  have hfold : later.foldl (fun text s => s.replaceIn text) s.value.toList = s.value.toList := by
    induction later with
    | nil => rfl
    | cons s' later ih =>
      obtain ⟨hfirst, hfree⟩ := List.forall_mem_cons.mp hfree
      rw [List.foldl_cons, Slot.replaceIn, replaceAll_eq_self hfirst, ih hfree]
  induction earlier with
  | nil =>
    rw [List.nil_append, insertions, hfold]
    exact List.mem_cons_self
  | cons s' earlier ih => exact List.mem_cons_of_mem _ ih

lemma find?_token (hnodup : (inserted.map fun i => i.token.toList).Nodup) (hi : i ∈ inserted) :
    inserted.find? (fun j => i.token.toList == j.token.toList) = some i := by
  obtain ⟨found, hfound⟩ : ∃ found, inserted.find? (fun j => i.token.toList == j.token.toList) =
      some found := by
    rw [← Option.isSome_iff_exists, List.find?_isSome]
    exact ⟨i, hi, by simp⟩
  have htoken : i.token.toList = found.token.toList := by simpa using List.find?_some hfound
  rw [hfound, List.inj_on_of_nodup_map hnodup (List.mem_of_find?_eq_some hfound) hi htoken.symm]

/-- What is put in where the template has the placeholder stands in the text. -/
lemma text_infix_flatMap {lines : List Line}
    (hnodup : (inserted.map fun i => i.token.toList).Nodup) (hi : i ∈ inserted)
    (hheld : some i.token.toList ∈ lines.map Line.token?) :
    i.text <:+: lines.flatMap fun l => l.inserting inserted := by
  obtain ⟨l, hl, htoken⟩ := List.mem_map.mp hheld
  have hline : i.text <:+: l.inserting inserted := by
    cases l with
    | holding before token after =>
      obtain rfl : token = i.token.toList := Option.some.inj htoken
      rw [Line.inserting, find?_token hnodup hi]
      dsimp only
      split
      · exact List.infix_rfl
      · exact ⟨before, after, List.append_assoc _ _ _⟩
    | _ => cases htoken
  obtain ⟨front, back, rfl⟩ := List.append_of_mem hl
  rw [List.flatMap_append, List.flatMap_cons]
  exact hline.trans ((List.prefix_append _ _).isInfix.trans (List.suffix_append _ _).isInfix)

end Proofs

end TypedTables
