import Mathlib
import PageRules.Proofs.RuleText.Line

/-!
# The option groups of a field

What follows the colon of a field line is read from its end. A reader steps over bracket groups,
with nested brackets inside, and the groups from the leftmost one that stands apart on hold options
(`Stepped`, `SplitsAt`). Their contents are then read from the front, where a group ends at the
first closing bracket. So the two readers agree on a group exactly if no bracket is opened inside of
it (`splitField_groups`). Of a group with brackets inside, what follows the first closing bracket is
left out.
-/

namespace PageRules.RuleText

/-! ## Groups -/

/-- A group with the white space in front of it and what stands between its brackets. -/
structure BracketGroup where
  gap : Text
  inner : Text

namespace BracketGroup

def text (g : BracketGroup) : Text := g.gap ++ '[' :: g.inner ++ [']']

/-- The brackets inside match. -/
structure Sound (g : BracketGroup) : Prop where
  gap : ∀ c ∈ g.gap, Text.isSpace c = true
  inner : Matched g.inner

end BracketGroup

/-- The groups one after another. -/
def groupTexts (gs : List BracketGroup) : Text := gs.flatMap BracketGroup.text

/-- From the end of a text, a reader steps over groups until no group ends the rest. -/
inductive Stepped : Text → List BracketGroup → Text → Prop
  | stop {t} (h : ∀ front (g : BracketGroup), g.Sound → t ≠ front ++ g.text) : Stepped t [] t
  | step {front gs rest} {g : BracketGroup} (hg : g.Sound)
      (hfront : ∀ c ∈ front.getLast?, Text.isSpace c = false) (h : Stepped front gs rest) :
      Stepped (front ++ g.text) (gs ++ [g]) rest

/-- The second list begins with the leftmost group that stands apart: white space is in front of it,
or nothing. -/
structure SplitsAt (rest : Text) (glued groups : List BracketGroup) : Prop where
  touching : ∀ g ∈ glued, g.gap = []
  front : glued ≠ [] → rest ≠ []
  apart : ∀ g ∈ groups.head?, g.gap ≠ [] ∨ rest ++ groupTexts glued = []

/-! ## Stepping over groups -/

variable {t rest : Text}

section

variable {gs : List BracketGroup} {g : BracketGroup}

theorem groupTexts_append (gs gs' : List BracketGroup) :
    groupTexts (gs ++ gs') = groupTexts gs ++ groupTexts gs' :=
  List.flatMap_append

theorem groupTexts_singleton (g : BracketGroup) : groupTexts [g] = g.text :=
  List.flatMap_singleton ..

theorem Stepped.text_eq (h : Stepped t gs rest) : t = rest ++ groupTexts gs := by
  induction h with
  | stop => exact (List.append_nil _).symm
  | step hg hfront h ih => rw [ih, groupTexts_append, groupTexts_singleton, List.append_assoc]

theorem Stepped.sound {gs : List BracketGroup} (h : Stepped t gs rest) : ∀ g ∈ gs, g.Sound := by
  induction h with
  | stop => exact List.forall_mem_nil _
  | step hg hfront h ih => exact List.forall_mem_append.mpr ⟨ih, List.forall_mem_singleton.mpr hg⟩

namespace SplitsAt

variable {glued : List BracketGroup}

theorem nil (rest : Text) : SplitsAt rest [] [] := ⟨by simp, by simp, by simp⟩

theorem concat (h : SplitsAt rest glued (g :: gs)) (g' : BracketGroup) :
    SplitsAt rest glued (g :: gs ++ [g']) :=
  ⟨h.touching, h.front, h.apart⟩

theorem begins (h : SplitsAt rest glued []) (hg : g.gap ≠ [] ∨ rest ++ groupTexts glued = []) :
    SplitsAt rest glued [g] :=
  ⟨h.touching, h.front, by simpa using hg⟩

theorem touches (h : SplitsAt rest glued []) (hg : ¬(g.gap ≠ [] ∨ rest ++ groupTexts glued = [])) :
    SplitsAt rest (glued ++ [g]) [] := by
  obtain ⟨hgap, hfront⟩ := not_or.mp hg
  refine ⟨List.forall_mem_append.mpr ⟨h.touching, by simpa using hgap⟩, fun _ => ?_, by simp⟩
  rintro rfl
  by_cases hglued : glued = []
  · exact hfront (by simp [hglued, groupTexts])
  · exact h.front hglued rfl

end SplitsAt

theorem BracketGroup.reverse_append_text (front : Text) (g : BracketGroup) :
    (front ++ g.text).reverse = ']' :: (g.inner.reverse ++ '[' :: (front ++ g.gap).reverse) := by
  simp [text]

/-- What stands before a group and its white space is found again by taking these off. -/
theorem BracketGroup.Sound.dropWhile_reverse {front : Text} (hg : g.Sound)
    (hfront : ∀ c ∈ front.getLast?, Text.isSpace c = false) :
    (front ++ g.gap).reverse.dropWhile Text.isSpace = front.reverse := by
  rw [List.reverse_append,
    List.dropWhile_append_of_pos fun c hc => hg.gap c (List.mem_reverse.mp hc)]
  rw [← List.head?_reverse] at hfront
  cases hrev : front.reverse with
  | nil => rfl
  | cons c t =>
    rw [hrev] at hfront
    exact List.dropWhile_cons_of_neg (by simp [hfront c rfl])

theorem BracketGroup.Sound.beforeGroup?_eq (hg : g.Sound) (front : Text) :
    beforeGroup? 0 (g.inner.reverse ++ '[' :: (front ++ g.gap).reverse) =
      some (front ++ g.gap).reverse :=
  beforeGroup?_eq_some_iff.mpr ⟨_, rfl, closes_reverse_iff.mpr hg.inner⟩

/-- A text ends in one group at most. -/
theorem BracketGroup.Sound.append_text_inj {front front' : Text} {g' : BracketGroup} (hg : g.Sound)
    (hg' : g'.Sound)
    (hfront : ∀ c ∈ front.getLast?, Text.isSpace c = false)
    (hfront' : ∀ c ∈ front'.getLast?, Text.isSpace c = false)
    (h : front ++ g.text = front' ++ g'.text) : front = front' ∧ g = g' := by
  have hrev := congrArg List.reverse h
  rw [g.reverse_append_text, g'.reverse_append_text] at hrev
  have htail := (List.cons.inj hrev).2
  have hbefore := hg.beforeGroup?_eq front
  rw [htail, hg'.beforeGroup?_eq front'] at hbefore
  have hgaps : (front' ++ g'.gap).reverse = (front ++ g.gap).reverse := Option.some.inj hbefore
  have hfronts : front = front' := by
    rw [← List.reverse_inj, ← hg.dropWhile_reverse hfront, ← hg'.dropWhile_reverse hfront', hgaps]
  rw [hgaps] at htail
  have hinner : g.inner = g'.inner := List.reverse_inj.mp (List.append_cancel_right htail)
  subst hfronts
  have hgap : g.gap = g'.gap := (List.append_cancel_left (List.reverse_inj.mp hgaps)).symm
  cases g
  cases g'
  exact ⟨rfl, congr (congrArg BracketGroup.mk hgap) hinner⟩

/-- Where the groups begin and end does not depend on the reader. -/
theorem Stepped.unique {gs' : List BracketGroup} {rest' : Text} (h : Stepped t gs rest)
    (h' : Stepped t gs' rest') : gs = gs' ∧ rest = rest' := by
  induction h generalizing gs' rest' with
  | stop hstop =>
    cases h' with
    | stop => exact ⟨rfl, rfl⟩
    | step hg hfront h => exact absurd rfl (hstop _ _ hg)
  | @step front gs rest g hg hfront h ih =>
    generalize ht : front ++ g.text = t at h'
    cases h' with
    | stop hstop => exact absurd ht.symm (hstop _ _ hg)
    | step hg' hfront' h' =>
      obtain ⟨rfl, rfl⟩ := hg.append_text_inj hg' hfront hfront' ht
      obtain ⟨rfl, rfl⟩ := ih h'
      exact ⟨rfl, rfl⟩

/-- A text read from its end begins with a group just where the opening bracket is found. -/
theorem beforeGroup?_eq_none_iff : beforeGroup? 0 t = none ↔
    ∀ front (g : BracketGroup), g.Sound → (']' :: t).reverse ≠ front ++ g.text := by
  simp only [Option.eq_none_iff_forall_ne_some, Ne, beforeGroup?_eq_some_iff, not_exists, not_and]
  constructor
  · intro h front g hg heq
    have hrev := congrArg List.reverse heq
    rw [List.reverse_reverse, g.reverse_append_text] at hrev
    exact h _ _ (List.cons.inj hrev).2 (closes_reverse_iff.mpr hg.inner)
  · rintro h before u rfl hu
    have hg : BracketGroup.Sound ⟨[], u.reverse⟩ :=
      ⟨List.forall_mem_nil _, closes_reverse_iff.mp (by rwa [List.reverse_reverse])⟩
    exact h before.reverse _ hg (by simp [BracketGroup.text])

end

/-- The white space at the end of what stands before a group belongs to the group. -/
theorem exists_group_of_beforeGroup? {before : Text} (h : beforeGroup? 0 t = some before) :
    ∃ g : BracketGroup, g.Sound ∧ g.gap = (before.takeWhile Text.isSpace).reverse ∧
      (']' :: t).reverse = (before.dropWhile Text.isSpace).reverse ++ g.text := by
  obtain ⟨u, rfl, hu⟩ := beforeGroup?_eq_some_iff.mp h
  refine ⟨⟨(before.takeWhile Text.isSpace).reverse, u.reverse⟩, ⟨fun c hc => ?_, ?_⟩, rfl, ?_⟩
  · exact List.mem_takeWhile_imp (List.mem_reverse.mp hc)
  · exact closes_reverse_iff.mp (by rwa [List.reverse_reverse])
  · have hsplit : before.reverse =
        (before.dropWhile Text.isSpace).reverse ++ (before.takeWhile Text.isSpace).reverse := by
      rw [← List.reverse_append, List.takeWhile_append_dropWhile]
    simp [BracketGroup.text, hsplit]

theorem standsApart_iff :
    standsApart t = true ↔ t.takeWhile Text.isSpace ≠ [] ∨ t.dropWhile Text.isSpace = [] := by
  cases t with
  | nil => simp [standsApart]
  | cons c t => by_cases hc : Text.isSpace c = true <;> simp [standsApart, hc]

/-- The groups that are peeled off a text are those that a reader steps over from its end. What
stays is the part before the leftmost one that stands apart, with the white space in front of it. -/
theorem stepped_peelGroups (best t : Text) :
    ∃ rest glued groups, Stepped t.reverse (glued ++ groups) rest ∧ SplitsAt rest glued groups ∧
      (groups = [] → peelGroups best t = best) ∧
      ∀ g ∈ groups.head?, peelGroups best t = (rest ++ groupTexts glued ++ g.gap).reverse := by
  fun_induction peelGroups best t with
  | case1 best rest before hb ih =>
    obtain ⟨g, hg, hgap, htext⟩ := exists_group_of_beforeGroup? hb
    simp only [dite_eq_ite] at ih
    obtain ⟨front, glued, groups, hsteps, hsplit, hnone, hsome⟩ := ih
    have hend : ∀ c ∈ (before.dropWhile Text.isSpace).reverse.getLast?,
        Text.isSpace c = false := by
      intro c hc
      rw [List.getLast?_reverse] at hc
      have hnot := List.head?_dropWhile_not Text.isSpace before
      rwa [Option.mem_def.mp hc] at hnot
    have hstep := hsteps.step hg hend
    rw [← htext, List.append_assoc] at hstep
    -- a group that is further to the front and stands apart has begun the options already
    cases groups with
    | cons g' gs => exact ⟨front, glued, _, hstep, hsplit.concat g, by simp, hsome⟩
    | nil =>
      have htexts : (before.dropWhile Text.isSpace).reverse = front ++ groupTexts glued := by
        simpa using hsteps.text_eq
      have hiff := standsApart_iff (t := before)
      rw [← List.reverse_ne_nil_iff, ← hgap, ← List.reverse_eq_nil_iff, htexts] at hiff
      rw [hnone rfl]
      by_cases hapart : standsApart before = true
      · refine ⟨front, glued, [g], by simpa using hstep, hsplit.begins (hiff.mp hapart),
          by simp, ?_⟩
        rintro g' ⟨⟩
        rw [if_pos hapart, ← htexts, hgap, ← List.reverse_append, List.takeWhile_append_dropWhile,
          List.reverse_reverse]
      · exact ⟨front, glued ++ [g], [], by simpa using hstep,
          hsplit.touches (mt hiff.mpr hapart), fun _ => if_neg hapart, by simp⟩
  | case2 best rest hb =>
    exact ⟨_, [], [], .stop (beforeGroup?_eq_none_iff.mp hb), .nil _, fun _ => rfl, by simp⟩
  | case3 best t hclose =>
    refine ⟨_, [], [], .stop fun front g hg heq => ?_, .nil _, fun _ => rfl, by simp⟩
    have hrev := congrArg List.reverse heq
    rw [List.reverse_reverse, g.reverse_append_text] at hrev
    exact hclose _ hrev

/-! ## The contents of groups -/

theorem open_not_mem_of_isSpace (h : ∀ c ∈ t, Text.isSpace c = true) : '[' ∉ t := by
  intro hm
  cases h '[' hm

/-- Behind a closing bracket the reading begins anew. -/
theorem optionGroups_append {s : Text} (hs : ∀ c ∈ s.getLast?, c = ']') (t : Text) :
    optionGroups (s ++ t) = optionGroups s ++ optionGroups t := by
  induction hn : s.length using Nat.strong_induction_on generalizing s with
  | _ n ih =>
    by_cases hopen : '[' ∈ s
    · obtain ⟨front, back, rfl, hfront⟩ := List.eq_append_cons_of_mem hopen
      have hclose : ']' ∈ back := by
        rcases List.eq_nil_or_concat back with rfl | ⟨b, c, rfl⟩
        · exact absurd (hs '[' (by simp)) (by decide)
        · rw [hs c (by simp [List.getLast?_cons])]
          simp
      obtain ⟨inner, after, rfl, hinner⟩ := List.eq_append_cons_of_mem hclose
      have hafter : ∀ c ∈ after.getLast?, c = ']' := by
        intro c hc
        exact hs c (by simp [List.getLast?_append, List.getLast?_cons, Option.mem_def.mp hc])
      have hlength : after.length < n := by
        simp at hn
        omega
      have hread (t : Text) : optionGroups (front ++ '[' :: (inner ++ ']' :: t)) =
          Text.trim inner :: optionGroups t :=
        (optionGroups_prepend hfront _).trans (optionGroups_cons hinner t)
      calc
        optionGroups (front ++ '[' :: (inner ++ ']' :: after) ++ t) =
            Text.trim inner :: optionGroups (after ++ t) := by simp [← hread]
        _ = Text.trim inner :: optionGroups after ++ optionGroups t := by
          rw [ih _ hlength hafter rfl, List.cons_append]
        _ = optionGroups (front ++ '[' :: (inner ++ ']' :: after)) ++ optionGroups t := by
          rw [hread]
    · rw [optionGroups_prepend hopen, optionGroups_of_not_mem hopen, List.nil_append]

/-- No closing bracket stands in the contents of a group. -/
theorem close_not_mem_of_mem_optionGroups {piece : Text} (h : piece ∈ optionGroups t) :
    ']' ∉ piece := by
  fun_induction optionGroups t with
  | case1 => cases h
  | case2 => cases h
  | case3 t front rest hopen inner after hclose ih =>
    rcases List.mem_cons.mp h with rfl | h
    · intro hm
      obtain ⟨-, -, -, hinner⟩ := Text.splitOnce_eq_some hclose
      cases hinner ']' ((Text.trim_isInfix inner).subset hm)
    · exact ih h

theorem getLast?_groupTexts (gs : List BracketGroup) : ∀ c ∈ (groupTexts gs).getLast?, c = ']' := by
  rcases List.eq_nil_or_concat gs with rfl | ⟨gs, g, rfl⟩
  · simp [groupTexts]
  · simp [groupTexts_append, groupTexts_singleton, BracketGroup.text, ← List.append_assoc, eq_comm]

theorem optionGroups_groupTexts (gs : List BracketGroup) :
    optionGroups (groupTexts gs) = gs.flatMap fun g => optionGroups g.text := by
  induction gs with
  | nil => exact optionGroups_of_not_mem (List.not_mem_nil)
  | cons g gs ih =>
    have hg := getLast?_groupTexts [g]
    rw [groupTexts_singleton] at hg
    rw [groupTexts, List.flatMap_cons, optionGroups_append hg, List.flatMap_cons, ← ih]
    rfl

namespace BracketGroup.Sound

variable {g : BracketGroup} (hg : g.Sound)
include hg

theorem open_not_mem_iff : '[' ∉ g.inner ↔ ']' ∉ g.inner := by
  rw [← List.count_eq_zero, hg.inner.balance, List.count_eq_zero]

/-- A group without brackets inside is read as its contents. -/
theorem optionGroups_text (h : '[' ∉ g.inner) : optionGroups g.text = [Text.trim g.inner] :=
  optionGroups_group (open_not_mem_of_isSpace hg.gap) (hg.open_not_mem_iff.mp h)

/-- What a group with brackets inside holds is not read. -/
theorem open_not_mem_of_read (h : Text.trim g.inner ∈ optionGroups t) : '[' ∉ g.inner := by
  rw [hg.open_not_mem_iff]
  intro hm
  exact close_not_mem_of_mem_optionGroups h (Text.mem_trim hm rfl)

end BracketGroup.Sound

/-! ## The characters of a field -/

/-- The text without white space and brackets. -/
def visible (t : Text) : Text := t.filter fun c => !Text.isBlank c && c != '[' && c != ']'

theorem visible_append (s t : Text) : visible (s ++ t) = visible s ++ visible t :=
  List.filter_append ..

theorem visible_trim (t : Text) : visible (Text.trim t) = visible t :=
  Text.filter_trim (fun c hc => by simp [hc]) t

theorem visible_trimEnd (t : Text) : visible (Text.trimEnd t) = visible t :=
  Text.filter_trimEnd (fun c hc => by simp [hc]) t

theorem visible_text {g : BracketGroup} (hg : g.Sound) : visible g.text = visible g.inner := by
  have hgap : visible g.gap = [] := by
    refine List.filter_eq_nil_iff.mpr fun c hc => ?_
    simp [Text.isBlank_of_isSpace (hg.gap c hc)]
  rw [BracketGroup.text, List.append_assoc, visible_append, hgap, List.nil_append, List.cons_append]
  simp [visible]

theorem visible_groupTexts {gs : List BracketGroup} (hgs : ∀ g ∈ gs, g.Sound) :
    visible (groupTexts gs) = visible (gs.flatMap BracketGroup.inner) := by
  induction gs with
  | nil => rfl
  | cons g gs ih =>
    obtain ⟨hg, hgs⟩ := List.forall_mem_cons.mp hgs
    rw [groupTexts, List.flatMap_cons, visible_append, visible_text hg, List.flatMap_cons,
      visible_append, ← ih hgs]
    rfl

/-! ## Fields -/

theorem flatMap_optionGroups_eq_iff {gs : List BracketGroup} (hgs : ∀ g ∈ gs, g.Sound) :
    (gs.flatMap fun g => optionGroups g.text) = gs.map (fun g => Text.trim g.inner) ↔
      ∀ g ∈ gs, '[' ∉ g.inner := by
  rw [← optionGroups_groupTexts]
  constructor
  · intro h g hg
    have hread : Text.trim g.inner ∈ optionGroups (groupTexts gs) := by
      rw [h]
      exact List.mem_map_of_mem hg
    exact (hgs g hg).open_not_mem_of_read hread
  · intro h
    rw [optionGroups_groupTexts, List.map_eq_flatMap]
    exact List.flatMap_congr fun g hg => (hgs g hg).optionGroups_text (h g hg)

/-- The white space in front of the first group goes to the selector, and is trimmed off it. -/
theorem splitField_of_stepped (gap back : Text) {glued groups : List BracketGroup}
    (hsteps : Stepped (Text.trimEnd t) (glued ++ groups) rest)
    (hpeel : peelGroups (Text.trimEnd t).reverse (Text.trimEnd t).reverse =
      (rest ++ groupTexts glued ++ gap).reverse)
    (hgap : ∀ c ∈ gap, Text.isSpace c = true) (hback : groupTexts groups = gap ++ back) :
    splitField t =
      (Text.trim (rest ++ groupTexts glued), groups.flatMap fun g => optionGroups g.text) := by
  have htext : Text.trimEnd t = rest ++ groupTexts glued ++ gap ++ back := by
    rw [hsteps.text_eq, groupTexts_append, hback]
    simp only [List.append_assoc]
  unfold splitField
  dsimp only
  rw [hpeel, List.reverse_reverse, htext, List.drop_left, ← optionGroups_groupTexts, hback,
    optionGroups_prepend (open_not_mem_of_isSpace hgap),
    Text.trim_append_of_blank fun c hc => Text.isBlank_of_isSpace (hgap c hc)]

/-- A field is stepped over group by group from its end, and split in front of the leftmost group
that stands apart. The selector is what is before the split. The options are the contents of the
groups behind it exactly if no bracket is opened inside of one of them, and otherwise what a reading
up to the first closing bracket makes of each. White space and brackets apart, the selector and the
groups have all that the field has. -/
theorem splitField_groups (t : Text) :
    ∃ rest glued groups,
      (∀ gs front, Stepped (Text.trimEnd t) gs front ↔ gs = glued ++ groups ∧ front = rest) ∧
      SplitsAt rest glued groups ∧
      (splitField t).1 = Text.trim (rest ++ groupTexts glued) ∧
      (splitField t).2 = groups.flatMap (fun g => optionGroups g.text) ∧
      ((splitField t).2 = groups.map (fun g => Text.trim g.inner) ↔
        ∀ g ∈ groups, '[' ∉ g.inner) ∧
      visible t = visible ((splitField t).1 ++ groups.flatMap BracketGroup.inner) := by
  obtain ⟨rest, glued, groups, hsteps, hsplit, hnone, hsome⟩ :=
    stepped_peelGroups (Text.trimEnd t).reverse (Text.trimEnd t).reverse
  rw [List.reverse_reverse] at hsteps
  have hsound : ∀ g ∈ groups, g.Sound := fun g hg => hsteps.sound g (List.mem_append_right _ hg)
  have hread : splitField t =
      (Text.trim (rest ++ groupTexts glued), groups.flatMap fun g => optionGroups g.text) := by
    cases groups with
    | nil =>
      refine splitField_of_stepped [] [] hsteps ?_ (List.forall_mem_nil _) rfl
      rw [hnone rfl, hsteps.text_eq, List.append_nil, List.append_nil]
    | cons g gs =>
      refine splitField_of_stepped g.gap ('[' :: g.inner ++ [']'] ++ groupTexts gs) hsteps
        (hsome g rfl) (hsound g List.mem_cons_self).gap ?_
      simp [groupTexts, BracketGroup.text]
  refine ⟨rest, glued, groups, fun gs front => ⟨fun h => h.unique hsteps, ?_⟩, hsplit, ?_⟩
  · rintro ⟨rfl, rfl⟩
    exact hsteps
  rw [hread]
  refine ⟨rfl, rfl, flatMap_optionGroups_eq_iff hsound, ?_⟩
  rw [visible_append, visible_trim, ← visible_groupTexts hsound, ← visible_append,
    List.append_assoc, ← groupTexts_append, ← hsteps.text_eq, visible_trimEnd]

/-- The nested bracket closes the group for the reader of options, which loses the rest. -/
example : splitField "p [a: x[1] y]".toList = ("p".toList, ["a: x[1".toList]) := by decide +kernel

end PageRules.RuleText
