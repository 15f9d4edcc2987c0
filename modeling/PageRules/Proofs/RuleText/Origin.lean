import Mathlib
import PageRules.Proofs.RuleText.Silence

/-!
# Where fields are written

A field of a rule is written on a line of the body of its section, and one of its items on a line of
the body of its items block (`fields_written`). Such a line stands outside the braces of items
blocks. It can stand inside other braces: those keep nothing out.
-/

namespace PageRules.RuleText

variable {k : Keyword} {t u v : Text}

/-! ## Braces around a position -/

/-- Inside open braces of a text that closes all of them, some pair of braces at depth zero stands
around. -/
theorem exists_braces {d : Nat} (hu : braceDepth? 0 u = some (d + 1))
    (h : braceDepth? 0 (u ++ v) = some 0) :
    ∃ a m n b, u = a ++ '\x7b' :: m ∧ v = n ++ '\x7d' :: b ∧ braceDepth? 0 a = some 0 ∧
      body? 0 (m ++ v) = some (m ++ n, b) := by
  induction u using List.reverseRecOn generalizing d v with
  | nil => cases hu
  | append_singleton u c ih =>
    obtain ⟨e, he, hc⟩ := braceDepth?_append_eq_some_iff.mp hu
    rw [List.append_assoc] at h
    cases e with
    | succ e =>
      obtain ⟨a, m, n, b, rfl, hv, ha, hbody⟩ := ih he h
      cases n with
      | nil =>
        -- the brace that closes here would bring the depth down to zero
        cases hv
        have hm := (body?_eq_some hbody).2 1
        rw [List.append_nil] at hm
        rw [braceDepth?_append, ha, Option.bind_some, braceDepth?_open, hm] at he
        cases he
        cases hc
      | cons c' n =>
        cases hv
        refine ⟨a, m ++ [c], n, b, by simp, rfl, ha, ?_⟩
        simpa using hbody
    | zero =>
      have hopen : c = '\x7b' := by
        by_contra hne
        by_cases hcl : c = '\x7d'
        · subst hcl
          cases hc
        · rw [braceDepth?_cons hne hcl] at hc
          cases hc
      subst hopen
      have hv : braceDepth? 1 v = some 0 := by
        rw [braceDepth?_append, he] at h
        exact h
      obtain ⟨body, after, hbody, -⟩ := body?_of_braceDepth (d := 0) (e := 0) hv
      exact ⟨u, [], body, after, rfl, (body?_eq_some hbody).1, he, hbody⟩

/-! ## Lines -/

theorem mem_uncovered {holes : List Hole} {pos : Nat} {run : Fragment}
    (h : run ∈ uncovered holes pos t) :
    ∃ u v, t = u ++ (run.chars ++ v) ∧ run.start = pos + u.length ∧
      ∀ p, run.Covers p → holes.any (·.covers p) = false := by
  induction t generalizing pos run with
  | nil => cases h
  | cons c t ih =>
    have htail {g : Fragment} (hg : g ∈ uncovered holes (pos + 1) t) :
        ∃ u v, c :: t = u ++ (g.chars ++ v) ∧ g.start = pos + u.length ∧
          ∀ p, g.Covers p → holes.any (·.covers p) = false := by
      obtain ⟨u, v, rfl, hstart, hfree⟩ := ih hg
      exact ⟨c :: u, v, rfl, by rw [hstart, List.length_cons]; omega, hfree⟩
    unfold uncovered at h
    split at h
    · exact htail h
    · rename_i hc
      have hfree (p : Nat) (hp : p = pos) : holes.any (·.covers p) = false := by
        rw [hp]
        simpa using hc
      rcases mem_attach h with rfl | h | ⟨g, hg, hstart, rfl⟩
      · refine ⟨[], t, rfl, rfl, fun p hp => hfree p ?_⟩
        have := hp.1
        have := hp.2
        simp only [Fragment.stop, List.length_singleton] at *
        omega
      · exact htail h
      · obtain ⟨u, v, rfl, hg', hrest⟩ := ih hg
        have hu : u = [] := List.eq_nil_of_length_eq_zero (by omega)
        subst hu
        refine ⟨[], v, rfl, rfl, fun p hp => ?_⟩
        by_cases hfirst : p = pos
        · exact hfree p hfirst
        · refine hrest p ⟨?_, ?_⟩
          · have := hp.1
            simp only at this
            omega
          · have := hp.2
            simp only [Fragment.stop, List.length_cons] at this ⊢
            omega

theorem head_linesFrom (pos : Nat) (t : Text) : ∃ w rest, linesFrom pos t = ⟨pos, w⟩ :: rest := by
  cases t with
  | nil => exact ⟨[], [], rfl⟩
  | cons c t =>
    unfold linesFrom
    split
    · exact ⟨_, _, rfl⟩
    · split
      · exact ⟨_, _, rfl⟩
      · exact ⟨_, _, rfl⟩

theorem mem_linesFrom {pos : Nat} {line : Fragment} (h : line ∈ linesFrom pos t) :
    ∃ u v, t = u ++ (line.chars ++ v) ∧ line.start = pos + u.length ∧ '\n' ∉ line.chars := by
  induction t generalizing pos line with
  | nil =>
    cases List.mem_singleton.mp h
    exact ⟨[], [], rfl, rfl, by simp⟩
  | cons c t ih =>
    have htail {g : Fragment} (hg : g ∈ linesFrom (pos + 1) t) :
        ∃ u v, c :: t = u ++ (g.chars ++ v) ∧ g.start = pos + u.length ∧ '\n' ∉ g.chars := by
      obtain ⟨u, v, rfl, hstart, hbreak⟩ := ih hg
      exact ⟨c :: u, v, rfl, by rw [hstart, List.length_cons]; omega, hbreak⟩
    obtain ⟨w, rest, hw⟩ := head_linesFrom (pos + 1) t
    unfold linesFrom at h
    rw [hw] at h
    split at h
    · rcases List.mem_cons.mp h with rfl | h
      · exact ⟨[], c :: t, rfl, rfl, by simp⟩
      · exact htail (hw ▸ h)
    · rename_i hc
      rcases List.mem_cons.mp h with rfl | h
      · obtain ⟨u, v, ht, hstart, hbreak⟩ := ih (hw ▸ List.mem_cons_self)
        have hu : u = [] := by
          simp only at hstart
          exact List.eq_nil_of_length_eq_zero (by omega)
        subst hu
        refine ⟨[], v, by rw [ht]; rfl, rfl, ?_⟩
        simp only [List.mem_cons, not_or]
        exact ⟨fun he => hc (beq_iff_eq.mpr he.symm), hbreak⟩
      · exact htail (hw ▸ List.mem_cons_of_mem _ h)

/-- A line outside the holes stands in the fragment, and no hole covers a character of it. -/
theorem mem_linesExcluding {f line : Fragment} {holes : List Hole}
    (h : line ∈ linesExcluding f holes) :
    ∃ u v, f.chars = u ++ (line.chars ++ v) ∧ line.start = f.start + u.length ∧
      '\n' ∉ line.chars ∧ ∀ p, line.Covers p → holes.any (·.covers p) = false := by
  obtain ⟨run, hrun, hline⟩ := List.mem_flatMap.mp h
  obtain ⟨u, v, hf, hstart, hfree⟩ := mem_uncovered hrun
  obtain ⟨u', v', hr, hstart', hbreak⟩ := mem_linesFrom hline
  refine ⟨u ++ u', v' ++ v, ?_, ?_, hbreak, fun p hp => hfree p ⟨?_, ?_⟩⟩
  · rw [hf, hr]
    simp only [List.append_assoc]
  · rw [hstart', hstart, List.length_append, Nat.add_assoc]
  · have := hp.1
    omega
  · have hlength := congrArg List.length hr
    have := hp.2
    simp only [Fragment.stop, List.length_append] at *
    omega

/-! ## Lines of a body -/

/-- Braces of the fragment stand around the position, and they are those of none of the blocks. -/
def Fragment.InStrayBraces (f : Fragment) (blocks : List Block) (p : Nat) : Prop :=
  ∃ a inner b, f.chars = a ++ '\x7b' :: (inner ++ '\x7d' :: b) ∧
    braceDepth? 0 a = some 0 ∧ braceDepth? 0 inner = some 0 ∧
    f.start + a.length < p ∧ p ≤ f.start + a.length + 1 + inner.length ∧
    ∀ i ∈ blocks, i.body.start ≠ f.start + a.length + 1

/-- The line is one of the body. It begins outside all braces, or else in braces that belong to no
items block. -/
structure IsLineOf (body line : Fragment) : Prop where
  place : ∃ u v, body.chars = u ++ (line.chars ++ v) ∧ line.start = body.start + u.length
  one_line : '\n' ∉ line.chars
  depth : braceDepth? 0 (body.chars.take (line.start - body.start)) = some 0 ∨
    body.InStrayBraces (scanBlocks .items body).blocks line.start

/-- The brace that closes the body of a block is in the block. -/
theorem Block.StandsIn.body?_eq {pos : Nat} {b : Block} {a rest : Text}
    (h : b.StandsIn k pos (a ++ '\x7b' :: rest)) (hb : b.body.start = pos + a.length + 1) :
    ∃ after, body? 0 rest = some (b.body.chars, after) := by
  obtain ⟨front, word, header, body, trailer, after, hblock, htext, rfl⟩ := h
  refine ⟨trailer ++ after, ?_⟩
  have hsplit : a ++ '\x7b' :: rest =
      (front ++ word ++ header) ++ '\x7b' :: (body ++ '\x7d' :: (trailer ++ after)) := by
    rw [htext]
    simp [pieces]
  have hlength : a.length = (front ++ word ++ header).length := by
    simp only [opened] at hb
    simp only [List.length_append]
    omega
  obtain ⟨-, hrest⟩ := List.append_inj hsplit hlength
  cases hrest
  exact body?_of_braceDepth_eq (hblock.balanced 0) _

/-- What no hole of an items block covers is a line of the body. -/
theorem isLineOf_of_mem {body line : Fragment} {holes : List Hole}
    (hbody : braceDepth? 0 body.chars = some 0)
    (hholes : ∀ b ∈ (scanBlocks .items body).blocks, b.hole ∈ holes)
    (h : line ∈ linesExcluding body holes) (hne : line.chars ≠ []) : IsLineOf body line := by
  obtain ⟨u, v, hchars, hstart, hbreak, hfree⟩ := mem_linesExcluding h
  refine ⟨⟨u, v, hchars, hstart⟩, hbreak, ?_⟩
  have htake : body.chars.take (line.start - body.start) = u := by
    rw [hstart, Nat.add_sub_cancel_left, hchars, List.take_left]
  rw [htake]
  rw [hchars] at hbody
  cases hd : braceDepth? 0 u with
  | none =>
    rw [braceDepth?_append, hd] at hbody
    cases hbody
  | some d =>
    cases d with
    | zero => exact .inl rfl
    | succ d =>
      right
      obtain ⟨a, m, n, b, rfl, hv, ha, hinner⟩ := exists_braces hd hbody
      have hchars' : body.chars = a ++ '\x7b' :: (m ++ (line.chars ++ v)) := by
        rw [hchars, List.append_assoc, List.cons_append]
      obtain ⟨hsplit, hbalanced⟩ := body?_eq_some hinner
      refine ⟨a, m ++ n, b, by rw [hchars', hsplit], ha, hbalanced 0, ?_, ?_, fun i hi hbrace => ?_⟩
      · rw [hstart, List.length_append, List.length_cons]
        omega
      · rw [hstart, List.length_append, List.length_cons, List.length_append]
        omega
      · -- the hole of an items block would cover the first character of the line
        have hstands := (scans_scanFrom .items body.start 0 true body.chars).standsIn hi
        have hwithin := hstands.within
        rw [hchars'] at hstands
        obtain ⟨after, heq⟩ := hstands.body?_eq hbrace
        rw [hinner] at heq
        have hlength : i.body.chars.length = m.length + n.length := by
          rw [← List.length_append, (Prod.mk.inj (Option.some.inj heq)).1]
        have hcovers : i.Covers line.start := by
          have := hwithin.body
          have := hwithin.trailer
          simp only [Block.Covers, Fragment.stop, List.length_append, List.length_cons] at *
          omega
        have hfirst : holes.any (·.covers line.start) = false :=
          hfree line.start ⟨Nat.le_refl _, by
            have := List.length_pos_iff.mpr hne
            simp only [Fragment.stop]
            omega⟩
        rw [List.any_eq_false] at hfirst
        exact hfirst _ (hholes i hi) (covers_hole_iff.mpr hcovers)

/-! ## Templates -/

/-- A line that `p` holds of defines each field of the template. -/
structure WrittenOn (p : Fragment → Prop) (t : Template) : Prop where
  selectors : ∀ e ∈ t.fieldSelectors.entries, ∃ line definition, p line ∧
    fieldOf? line.text = some (e.1, definition) ∧ e.2 = (splitField definition).1
  options : ∀ e ∈ t.fieldOptions.entries, ∃ line definition, p line ∧
    fieldOf? line.text = some (e.1, definition) ∧
    e.2 = (readOptions line.start (splitField definition).2).value

namespace WrittenOn

variable {p : Fragment → Prop} {t : Template} {line : Fragment} {f : Field} {definition : Text}

theorem addFieldOptions (h : WrittenOn p t) (hp : p line)
    (hf : fieldOf? line.text = some (f, definition)) :
    WrittenOn p (t.addFieldOptions f (readOptions line.start (splitField definition).2).value) where
  selectors := h.selectors
  options e he := by
    rcases WriteOnce.mem_entries_insert he with he | rfl
    · exact h.options e he
    · exact ⟨line, definition, hp, hf, rfl⟩

theorem addFieldSelector (h : WrittenOn p t) (hp : p line)
    (hf : fieldOf? line.text = some (f, definition)) :
    WrittenOn p (t.addFieldSelector f (splitField definition).1) where
  selectors e he := by
    rcases WriteOnce.mem_entries_insert he with he | rfl
    · exact h.selectors e he
    · exact ⟨line, definition, hp, hf, rfl⟩
  options := h.options

theorem addLine (h : WrittenOn p t) (hp : line.chars ≠ [] → p line) :
    WrittenOn p (RuleText.addLine t line).value := by
  unfold RuleText.addLine
  dsimp only
  split
  · exact h
  · rename_i htext
    have hline : p line := by
      refine hp fun hnil => htext (.inl ?_)
      rw [Fragment.text, hnil]
      rfl
    split
    · rename_i f definition hf
      unfold defineField
      dsimp only
      split
      · exact h.addFieldOptions hline hf
      · split
        · exact h.addFieldOptions hline hf
        · exact (h.addFieldSelector hline hf).addFieldOptions hline hf
    · exact h

theorem addLines {lines : List Fragment} (h : WrittenOn p t)
    (hp : ∀ line ∈ lines, line.chars ≠ [] → p line) :
    WrittenOn p (RuleText.addLines t lines).value := by
  induction lines generalizing t with
  | nil => exact h
  | cons line lines ih =>
    rw [RuleText.addLines, List.foldlM_cons, Noted.value_bind]
    exact ih (h.addLine (hp line List.mem_cons_self)) fun l hl => hp l (List.mem_cons_of_mem _ hl)

/-- Nothing is defined where a template begins. -/
theorem head (name selector : Text) (o : OptionSet) :
    WrittenOn p (Template.addSectionOptions { name, selector } o) where
  selectors := by simp [Template.addSectionOptions]
  options := by simp [Template.addSectionOptions]

end WrittenOn

/-! ## Rules -/

theorem braceDepth?_body {f : Fragment} {b : Block} (hb : b ∈ (scanBlocks k f).blocks) :
    braceDepth? 0 b.body.chars = some 0 := by
  obtain ⟨_, _, _, _, _, _, hblock, -, rfl⟩ := (scans_scanFrom ..).standsIn hb
  exact hblock.balanced 0

theorem itemTemplate?_writtenOn {b : Block} {t : Template}
    (hbody : braceDepth? 0 b.body.chars = some 0) (h : (itemTemplate? b).value = some t) :
    WrittenOn (IsLineOf b.body) t := by
  unfold itemTemplate? at h
  split at h
  · cases h
  · cases h
    refine (WrittenOn.head ..).addLines fun line hl hne => ?_
    exact isLineOf_of_mem hbody (fun i hi => List.mem_map_of_mem hi) hl hne

theorem firstItems_eq_some {found : Option Template} {blocks : List Block} {t : Template}
    (h : (firstItems found blocks).value = some t) :
    found = some t ∨ ∃ b ∈ blocks, (itemTemplate? b).value = some t := by
  induction blocks generalizing found with
  | nil => exact .inl h
  | cons b blocks ih =>
    cases found with
    | some t' =>
      rw [firstItems, Noted.value_bind] at h
      rcases ih h with ht | ⟨i, hi, ht⟩
      · exact .inl ht
      · exact .inr ⟨i, List.mem_cons_of_mem _ hi, ht⟩
    | none =>
      rw [firstItems, Noted.value_bind] at h
      rcases ih h with ht | ⟨i, hi, ht⟩
      · exact .inr ⟨b, List.mem_cons_self, ht⟩
      · exact .inr ⟨i, List.mem_cons_of_mem _ hi, ht⟩

/-- The fields of the rule are written on lines of the body of its section, and those of its items
on lines of the body of an items block in it. -/
structure WrittenIn (b : Block) (r : Rule) : Prop where
  made : (section? b).value = some r
  fields : WrittenOn (IsLineOf b.body) r.toTemplate
  items : ∀ t ∈ r.items, ∃ i ∈ (scanBlocks .items b.body).blocks,
    (itemTemplate? i).value = some t ∧ WrittenOn (IsLineOf i.body) t

/-- The items of a rule are those of an items block in the body of its section. -/
theorem exists_itemsBlock {b : Block} {r : Rule} {t : Template}
    (h : (section? b).value = some r) (ht : t ∈ r.items) :
    ∃ i ∈ (scanBlocks .items b.body).blocks, (itemTemplate? i).value = some t := by
  unfold section? at h
  dsimp only at h
  split at h
  · cases h
  split at h
  · cases h
  cases h
  exact (firstItems_eq_some ht).resolve_left fun hnone => by cases hnone

theorem section?_writtenIn {b : Block} {r : Rule} (hbody : braceDepth? 0 b.body.chars = some 0)
    (h : (section? b).value = some r) : WrittenIn b r := by
  refine ⟨h, ?_, fun t ht => ?_⟩
  · unfold section? at h
    dsimp only at h
    split at h
    · cases h
    split at h
    · cases h
    cases h
    refine (WrittenOn.head ..).addLines fun line hl hne => ?_
    refine isLineOf_of_mem hbody (fun i hi => ?_) hl hne
    exact List.mem_append_left _ (List.mem_map_of_mem hi)
  · obtain ⟨i, hi, hi'⟩ := exists_itemsBlock h ht
    exact ⟨i, hi, hi', itemTemplate?_writtenOn (braceDepth?_body hi) hi'⟩

/-! ## Texts -/

/-- The sections that a text compiles: those in its path blocks or, where there are none, all. -/
def compiledSections (raw : Text) : List Block :=
  if pathBlocks raw = [] then (scanBlocks .section (normalFragment raw)).blocks
  else (pathBlocks raw).flatMap fun p => (scanBlocks .section p.body).blocks

theorem exists_block_of_mem_sections {f : Fragment} {r : Rule} (h : r ∈ (sections f).value) :
    ∃ b ∈ (scanBlocks .section f).blocks, (section? b).value = some r := by
  rw [value_sections, List.mem_filterMap] at h
  exact h

/-- The scopes of path blocks hold rules of their sections. -/
theorem exists_block_of_mem_foldlM {blocks : List Block} {scopes : List PathScope} {s : PathScope}
    (h : s ∈ (blocks.foldlM addScope scopes).value) :
    s ∈ scopes ∨ ∃ p ∈ blocks, s.rules = (sections p.body).value := by
  induction blocks generalizing scopes with
  | nil => exact .inl h
  | cons p blocks ih =>
    rw [List.foldlM_cons, Noted.value_bind] at h
    rcases ih h with hs | ⟨q, hq, hs⟩
    · rw [value_addScope, List.mem_append] at hs
      rcases hs with hs | hs
      · exact .inl hs
      · exact .inr ⟨p, List.mem_cons_self, (scope?_eq_some (Option.mem_toList.mp hs)).2⟩
    · exact .inr ⟨q, List.mem_cons_of_mem _ hq, hs⟩

/-- Every rule is made from a section that is compiled. -/
theorem exists_compiledSection {raw : Text} {r : Rule} (hr : r ∈ (compile raw).rules) :
    ∃ b ∈ compiledSections raw, (section? b).value = some r ∧
      braceDepth? 0 b.body.chars = some 0 := by
  by_cases hpaths : pathBlocks raw = []
  · rw [rules_of_no_path hpaths] at hr
    rw [compiledSections, if_pos hpaths]
    obtain ⟨b, hb, hmade⟩ := exists_block_of_mem_sections hr
    exact ⟨b, hb, hmade, braceDepth?_body hb⟩
  · obtain ⟨s, hs, hr⟩ := List.mem_flatMap.mp hr
    have hscopes : (compile raw).scopes = _ := value_scopes_of_paths hpaths
    rw [hscopes] at hs
    obtain ⟨p, hp, hrules⟩ := (exists_block_of_mem_foldlM hs).resolve_left (by simp)
    rw [hrules] at hr
    obtain ⟨b, hb, hmade⟩ := exists_block_of_mem_sections hr
    rw [compiledSections, if_neg hpaths]
    exact ⟨b, List.mem_flatMap.mpr ⟨p, hp, hb⟩, hmade, braceDepth?_body hb⟩

/-- Every field of every rule that a text compiles to is written on a line of the body of its
section, every field of its items on a line of the body of an items block: on a line outside all
braces there, or inside braces that no items block has opened. -/
theorem fields_written {raw : Text} {r : Rule} (hr : r ∈ (compile raw).rules) :
    ∃ b ∈ compiledSections raw, WrittenIn b r := by
  obtain ⟨b, hb, hmade, hbody⟩ := exists_compiledSection hr
  exact ⟨b, hb, section?_writtenIn hbody hmade⟩

/-- A text with a field in braces that no items block has opened. -/
def strayBracesText : Text :=
  ("section: s .s \x7b\n text: a\n note \x7b\n  img: b\n \x7d\n" ++
    " items: .i \x7b\n  link: c\n \x7d\n\x7d").toList

/-- Its rule has that field, and no field of its items. -/
theorem fields_written_strayBracesText :
    ∃ r ∈ (compile strayBracesText).rules,
      r.fieldSelectors.entries = [(.text, ['a']), (.img, ['b'])] ∧
        ∃ b ∈ compiledSections strayBracesText, WrittenIn b r := by
  have hrules : (compile strayBracesText).rules.map (·.fieldSelectors.entries) =
      [[(.text, ['a']), (.img, ['b'])]] := by decide +kernel
  obtain ⟨r, hr, hentries⟩ := List.mem_map.mp (hrules ▸ List.mem_singleton_self _)
  exact ⟨r, hr, hentries, fields_written hr⟩

end PageRules.RuleText
