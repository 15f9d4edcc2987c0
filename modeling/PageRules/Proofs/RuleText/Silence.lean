import Mathlib
import PageRules.Proofs.RuleText.Coverage
import PageRules.Proofs.RuleText.Line
import PageRules.Proofs.RuleText.Scopes

/-!
# What no note is left of

A line that begins like a section is no line of a body: it leaves a note (`notes_addLines_ne_nil`).
So where the sections of a fragment leave no note, every line that begins a section is the header of
one of them, or it stands in option groups or in braces that belong to no section
(`sections_silent_line`).
-/

namespace PageRules.RuleText

variable {k : Keyword} {t u v : Text}

/-! ## Lines -/

theorem exists_attach (pos : Nat) (c : Char) (fs : List Fragment) :
    ∃ w rest, Fragment.attach pos c fs = ⟨pos, c :: w⟩ :: rest := by
  cases fs with
  | nil => exact ⟨[], [], rfl⟩
  | cons f fs =>
    rw [Fragment.attach]
    split
    · exact ⟨f.chars, fs, rfl⟩
    · exact ⟨[], f :: fs, rfl⟩

theorem mem_attach_of_mem {f : Fragment} {fs : List Fragment} (h : f ∈ fs) (pos : Nat) (c : Char) :
    f ∈ Fragment.attach pos c fs ∨
      (f.start = pos + 1 ∧ ⟨pos, c :: f.chars⟩ ∈ Fragment.attach pos c fs) := by
  cases fs with
  | nil => cases h
  | cons g fs =>
    rw [Fragment.attach]
    split
    · rename_i hg
      rcases List.mem_cons.mp h with rfl | h
      · exact .inr ⟨eq_of_beq hg, List.mem_cons_self⟩
      · exact .inl (List.mem_cons_of_mem _ h)
    · exact .inl (List.mem_cons_of_mem _ h)

/-- A character outside the holes is in a run, with what stands before it there. -/
theorem exists_mem_uncovered {holes : List Hole} {pos : Nat} {c : Char}
    (h : holes.any (·.covers (pos + u.length)) = false) (v : Text) :
    ∃ run ∈ uncovered holes pos (u ++ c :: v), ∃ s w, run.chars = s ++ c :: w ∧ s <:+ u ∧
      run.start + s.length = pos + u.length := by
  induction u generalizing pos with
  | nil =>
    obtain ⟨w, rest, hw⟩ := exists_attach pos c (uncovered holes (pos + 1) v)
    refine ⟨⟨pos, c :: w⟩, ?_, [], w, rfl, List.suffix_refl _, rfl⟩
    rw [List.nil_append, uncovered, if_neg (by simpa using h), hw]
    exact List.mem_cons_self
  | cons d u ih =>
    rw [List.length_cons, Nat.add_comm u.length, ← Nat.add_assoc] at h
    obtain ⟨run, hrun, s, w, hchars, hs, hstart⟩ := ih h
    have hlength : pos + (d :: u).length = pos + 1 + u.length := by
      rw [List.length_cons]
      omega
    rw [List.cons_append, uncovered, hlength]
    split
    · exact ⟨run, hrun, s, w, hchars, hs.trans (List.suffix_cons ..), hstart⟩
    · rcases mem_attach_of_mem hrun pos d with hm | ⟨hfirst, hm⟩
      · exact ⟨run, hm, s, w, hchars, hs.trans (List.suffix_cons ..), hstart⟩
      · -- the run reaches down to the character before, so it holds all that stands between
        have hwhole : s = u := hs.eq_of_length (by omega)
        subst hwhole
        refine ⟨_, hm, d :: s, w, congrArg (d :: ·) hchars, List.suffix_refl _, ?_⟩
        rw [List.length_cons]
        simp only
        omega

/-- A character outside the holes is in a line, with nothing before it but what stands before it on
its line in the text. -/
theorem exists_mem_linesExcluding {f : Fragment} {holes : List Hole} {c : Char}
    (hf : f.chars = u ++ c :: v) (hc : c ≠ '\n') (hfront : BlankFront u)
    (h : holes.any (·.covers (f.start + u.length)) = false) :
    ∃ line ∈ linesExcluding f holes, ∃ s w, line.chars = s ++ c :: w ∧
      ∀ d ∈ s, Text.isBlank d = true := by
  obtain ⟨run, hrun, s, w, hchars, hs, -⟩ := exists_mem_uncovered (c := c) h v
  obtain ⟨rest, hmem⟩ := Text.exists_mem_splitOn (· == '\n') (s ++ [c]) w
  rw [List.append_assoc, List.singleton_append, ← hchars,
    Text.afterLast_concat (by simpa using hc)] at hmem
  have hline : Text.afterLast (· == '\n') s ++ [c] ++ rest ∈
      (linesFrom run.start run.chars).map (·.chars) := by
    rw [chars_linesFrom]
    exact hmem
  obtain ⟨line, hline, heq⟩ := List.mem_map.mp hline
  refine ⟨line, ?_, Text.afterLast (· == '\n') s, rest, by rw [heq]; simp, hfront.suffix hs⟩
  rw [linesExcluding, hf]
  exact List.mem_flatMap.mpr ⟨run, hrun, hline⟩

/-! ## Lines that begin like a section -/

/-- The letter that begins the keyword of sections, in either case. -/
def IsInitial (c : Char) : Prop := c.toLower = 's'

theorem IsInitial.not_blank {c : Char} (h : IsInitial c) : Text.isBlank c = false :=
  isBlank_of_toLower_mem (k := .section) (h ▸ List.mem_cons_self)

theorem IsInitial.ne {c d : Char} (h : IsInitial c) (hd : d.toLower ≠ 's') : c ≠ d := by
  rintro rfl
  exact hd h

/-- A line that begins with the initial of no field defines none. -/
theorem fieldOf?_eq_none_of_head {line : Text} {c : Char} (h : line.head? = some c)
    (hblank : Text.isBlank c = false) (hcolon : c ≠ ':')
    (hinitial : ∀ f : Field, (Text.lower f.name).head? ≠ some c.toLower) :
    fieldOf? line = none := by
  obtain ⟨rest, rfl⟩ := List.head?_eq_some_iff.mp h
  unfold fieldOf?
  cases hsplit : Text.splitOnce (· == ':') (c :: rest) with
  | none => rfl
  | some parts =>
    obtain ⟨name, definition⟩ := parts
    obtain ⟨d, hd, htext, -⟩ := Text.splitOnce_eq_some hsplit
    have hname : (Text.trim name).head? = some c := by
      cases name with
      | nil =>
        rw [eq_of_beq hd] at htext
        exact absurd (List.cons.inj htext).1 hcolon
      | cons e name =>
        obtain rfl : c = e := (List.cons.inj htext).1
        exact Text.head?_trim (s := []) (by simp) hblank name
    have hfield : Field.ofName? (Text.trim name) = none := by
      refine List.find?_eq_none.mpr fun f _ heq => hinitial f ?_
      have hlower : Text.lower f.name = Text.lower (Text.trim name) := eq_of_beq heq
      rw [hlower, Text.lower, List.head?_map, hname, Option.map_some]
    simp [hfield]

/-- No field has a name that begins like a section. -/
theorem fieldOf?_eq_none {line : Text} {c : Char} (h : line.head? = some c) (hc : IsInitial c) :
    fieldOf? line = none := by
  refine fieldOf?_eq_none_of_head h hc.not_blank (hc.ne (by decide)) fun f => ?_
  rw [hc]
  cases f <;> decide

theorem notes_addLine_ne_nil {line : Fragment} {s w : Text} {c : Char}
    (hline : line.chars = s ++ c :: w) (hs : ∀ d ∈ s, Text.isBlank d = true) (hc : IsInitial c)
    (t : Template) : (addLine t line).notes ≠ [] := by
  have hhead : line.text.head? = some c := by
    rw [Fragment.text, hline]
    exact Text.head?_trim hs hc.not_blank w
  have hskip : ¬ (line.text = [] ∨ line.text.head? = some '#') := by
    rw [hhead]
    rintro (hnil | hmark)
    · rw [hnil] at hhead
      cases hhead
    · exact hc.ne (by decide) (Option.some.inj hmark)
  unfold addLine
  dsimp only
  rw [if_neg hskip, fieldOf?_eq_none hhead hc]
  exact List.cons_ne_nil _ _

theorem Noted.notes_of_foldlM_eq_nil {α β : Type} {f : β → α → Noted β} {l : List α} {b : β}
    (h : (l.foldlM f b).notes = []) {a : α} (ha : a ∈ l) : ∃ b, (f b a).notes = [] := by
  induction l generalizing b with
  | nil => cases ha
  | cons a' l ih =>
    rw [List.foldlM_cons, notes_bind, List.append_eq_nil_iff] at h
    rcases List.mem_cons.mp ha with rfl | ha
    · exact ⟨b, h.1⟩
    · exact ih h.2 ha

/-- A line that begins like a section leaves a note. -/
theorem notes_addLines_ne_nil {f : Fragment} {holes : List Hole} {c : Char}
    (hf : f.chars = u ++ c :: v) (hc : IsInitial c) (hfront : BlankFront u)
    (h : holes.any (·.covers (f.start + u.length)) = false) (t : Template) :
    (addLines t (linesExcluding f holes)).notes ≠ [] := by
  intro hnil
  obtain ⟨line, hline, s, w, hchars, hs⟩ :=
    exists_mem_linesExcluding hf (hc.ne (by decide)) hfront h
  obtain ⟨t, ht⟩ := Noted.notes_of_foldlM_eq_nil hnil hline
  exact notes_addLine_ne_nil hchars hs hc t ht

/-! ## Blocks that leave no note -/

theorem itemTemplate?_silent {b : Block} (h : (itemTemplate? b).notes = []) :
    (itemTemplate? b).value.isSome ∧ ∃ t, (addLines t (linesExcluding b.body [])).notes = [] := by
  unfold itemTemplate? at h ⊢
  split at h
  · cases h
  · rename_i hheader
    rw [if_neg hheader]
    simp only [Noted.notes_bind, List.append_eq_nil_iff] at h
    obtain ⟨-, hnested, hlines, -⟩ := h
    have hnil : (scanBlocks .items b.body).blocks = [] := List.map_eq_nil_iff.mp hnested
    rw [hnil] at hlines
    exact ⟨rfl, _, hlines⟩

/-- A second items block leaves a note. -/
theorem firstItems_silent {blocks : List Block} (h : (firstItems none blocks).notes = []) :
    ∀ b ∈ blocks, (itemTemplate? b).notes = [] := by
  cases blocks with
  | nil => simp
  | cons b blocks =>
    rw [firstItems, Noted.notes_bind, List.append_eq_nil_iff] at h
    obtain ⟨t, ht⟩ := Option.isSome_iff_exists.mp (itemTemplate?_silent h.1).1
    rw [ht] at h
    cases blocks with
    | nil => simpa using h.1
    | cons b' blocks => cases h.2

theorem sectionBody_silent {t : Template} {body : Fragment} (h : (sectionBody t body).notes = []) :
    (∀ b ∈ (scanBlocks .items body).blocks, (itemTemplate? b).notes = []) ∧
      ∃ t, (addLines t (linesExcluding body ((scanBlocks .items body).blocks.map Block.hole))).notes
        = [] := by
  unfold sectionBody at h
  simp only [Noted.notes_bind, List.append_eq_nil_iff] at h
  obtain ⟨hmalformed, hitems, hlines, -⟩ := h
  have hnil : (scanBlocks .items body).malformed = [] := List.map_eq_nil_iff.mp hmalformed
  rw [hnil, List.map_nil, List.append_nil] at hlines
  exact ⟨firstItems_silent hitems, _, hlines⟩

theorem covers_hole_iff {b : Block} {p : Nat} : b.hole.covers p = true ↔ b.Covers p := by
  rw [Hole.covers, Bool.and_eq_true, decide_eq_true_iff, decide_eq_true_iff]
  rfl

/-- In a section that leaves no note, what begins like a section stands in the option groups of its
items. -/
theorem sectionBody_silent_line {t : Template} {body : Fragment} {c : Char}
    (h : (sectionBody t body).notes = []) (hbody : body.chars = u ++ c :: v) (hc : IsInitial c)
    (hfront : BlankFront u) :
    ∃ b ∈ (scanBlocks .items body).blocks, b.trailer.Covers (body.start + u.length) := by
  obtain ⟨hitems, t, hlines⟩ := sectionBody_silent h
  cases hcovers : ((scanBlocks .items body).blocks.map Block.hole).any
      (·.covers (body.start + u.length)) with
  | false => exact absurd hlines (notes_addLines_ne_nil hbody hc hfront hcovers t)
  | true =>
    rw [List.any_map, List.any_eq_true] at hcovers
    obtain ⟨b, hb, hcovers⟩ := hcovers
    have hstands := (scans_scanFrom .items body.start 0 true body.chars).standsIn hb
    have hclose : '\x7d' ∉ (c :: v).head? := by
      rintro ⟨⟩
      exact hc.ne (by decide) rfl
    rcases hstands.line_cases hbody hfront hclose (covers_hole_iff.mp hcovers) with
      ⟨-, hk⟩ | ⟨s, w, hchars, hstart, hs, hw, hne⟩ | htrailer
    · -- the keyword of items does not begin like that of sections
      obtain ⟨header, hk⟩ := Option.isSome_iff_exists.mp hk
      have hhead : some 'i' = some c.toLower := head_of_after? hk
      rw [show c.toLower = 's' from hc] at hhead
      cases hhead
    · obtain ⟨c', w, rfl⟩ := List.exists_cons_of_ne_nil hne
      obtain rfl : c' = c := (List.cons_prefix_cons.mp hw).1
      obtain ⟨t, ht⟩ := (itemTemplate?_silent (hitems b hb)).2
      exact absurd ht (notes_addLines_ne_nil hchars hc (hfront.suffix hs) rfl t)
    · exact ⟨b, hb, htrailer⟩

theorem head_addLines (t : Template) (lines : List Fragment) :
    (addLines t lines).value.name = t.name ∧ (addLines t lines).value.selector = t.selector := by
  refine Noted.foldlM_invariant (fun u : Template => u.name = t.name ∧ u.selector = t.selector)
    (fun u line hu => ?_) _ ⟨rfl, rfl⟩
  have hs := addLine_step u line
  exact ⟨hs.head.1.trans hu.1, hs.head.2.1.trans hu.2⟩

theorem head_sectionBody (t : Template) (body : Fragment) :
    (sectionBody t body).value.name = t.name ∧ (sectionBody t body).value.selector = t.selector :=
  head_addLines ..

/-- The head of a rule is that of its section. -/
theorem sectionHead_of_section? {b : Block} {r : Rule} (h : (section? b).value = some r) :
    sectionHead b.header.text = (r.name, r.selector) := by
  unfold section? at h
  dsimp only at h
  split at h
  · cases h
  · split at h
    · cases h
    · cases h
      rw [(head_sectionBody ..).1, (head_sectionBody ..).2]
      rfl

theorem section?_silent {b : Block} (h : (section? b).notes = []) :
    (∃ r, (section? b).value = some r) ∧ ∃ t, (sectionBody t b.body).notes = [] := by
  unfold section? at h ⊢
  dsimp only at h ⊢
  split at h
  · cases h
  · rename_i hname
    split at h
    · cases h
    · rename_i hselector
      rw [if_neg hname, if_neg hselector]
      simp only [Noted.notes_bind, List.append_eq_nil_iff] at h
      exact ⟨⟨_, rfl⟩, _, h.2.1⟩

/-! ## Sections that leave no note -/

theorem sections_silent {f : Fragment} (h : (sections f).notes = []) :
    (scanBlocks .section f).malformed = [] ∧
      ∀ b ∈ (scanBlocks .section f).blocks, (section? b).notes = [] := by
  rw [notes_sections, List.append_eq_nil_iff] at h
  exact ⟨List.map_eq_nil_iff.mp h.1, List.flatMap_eq_nil_iff.mp h.2⟩

theorem forall₂_filterMap {α β : Type} {f : α → Option β} {r : α → β → Prop} {l : List α}
    (h : ∀ a ∈ l, ∃ b, f a = some b ∧ r a b) : List.Forall₂ r l (l.filterMap f) := by
  induction l with
  | nil => exact .nil
  | cons a l ih =>
    obtain ⟨b, hb, hr⟩ := h a List.mem_cons_self
    rw [List.filterMap_cons_some hb]
    exact .cons hr (ih fun a ha => h a (List.mem_cons_of_mem _ ha))

/-- Sections that leave no note all become rules. -/
theorem rules_of_sections_silent {f : Fragment} (h : (sections f).notes = []) :
    List.Forall₂ (fun b r => b ∈ (scanBlocks .section f).blocks ∧
        sectionHead b.header.text = (r.name, r.selector))
      (scanBlocks .section f).blocks (sections f).value := by
  rw [value_sections]
  refine forall₂_filterMap fun b hb => ?_
  obtain ⟨r, hr⟩ := (section?_silent ((sections_silent h).2 b hb)).1
  exact ⟨r, hr, hb, sectionHead_of_section? hr⟩

/-- The position is inside the option groups of a section or of the items of a section. -/
def InOptionGroups (f : Fragment) (p : Nat) : Prop :=
  ∃ b ∈ (scanBlocks .section f).blocks, b.trailer.Covers p ∨
    ∃ i ∈ (scanBlocks .items b.body).blocks, i.trailer.Covers p

/-- The position is inside braces that belong to no section. -/
def InForeignBraces (f : Fragment) (p : Nat) : Prop :=
  (∀ b ∈ (scanBlocks .section f).blocks, ¬ b.Covers p) ∧
    0 < openBraces 0 (f.chars.take (p - f.start))

/-- Where sections leave no note, every line that begins one is the header of one of them, but in
option groups and in braces that belong to no section. -/
theorem sections_silent_line {f : Fragment} (h : (sections f).notes = []) (hf : f.chars = u ++ v)
    (hk : (Keyword.section.after? v).isSome) (hfront : BlankFront u)
    (hbounded : boundedBehind true u = true) :
    (∃ b ∈ (scanBlocks .section f).blocks, b.start = f.start + u.length) ∨
      InOptionGroups f (f.start + u.length) ∨ InForeignBraces f (f.start + u.length) := by
  obtain ⟨hmalformed, hsections⟩ := sections_silent h
  have hscans := scans_scanFrom .section f.start 0 true f.chars
  -- Inside a section the line would leave a note of its own; outside, the scan comes upon it.
  by_cases hcovers : ∃ b ∈ (scanBlocks .section f).blocks, b.Covers (f.start + u.length)
  · obtain ⟨b, hb, hcovers⟩ := hcovers
    obtain ⟨c, w, rfl⟩ : ∃ c w, v = c :: w := by
      cases v with
      | nil => cases hk
      | cons c w => exact ⟨c, w, rfl⟩
    obtain ⟨header, hk⟩ := Option.isSome_iff_exists.mp hk
    have hc : IsInitial c := (Option.some.inj (head_of_after? hk : some 's' = _)).symm
    have hclose : '\x7d' ∉ (c :: w).head? := by
      rintro ⟨⟩
      exact hc.ne (by decide) rfl
    rcases (hscans.standsIn hb).line_cases hf hfront hclose hcovers with
      ⟨hstart, -⟩ | ⟨s, w', hchars, hstart, hs, hw, hne⟩ | htrailer
    · exact .inl ⟨b, hb, hstart⟩
    · obtain ⟨c', w', rfl⟩ := List.exists_cons_of_ne_nil hne
      obtain rfl : c' = c := (List.cons_prefix_cons.mp hw).1
      obtain ⟨t, ht⟩ := (section?_silent (hsections b hb)).2
      obtain ⟨i, hi, hcovers⟩ := sectionBody_silent_line ht hchars hc (hfront.suffix hs)
      exact .inr (.inl ⟨b, hb, .inr ⟨i, hi, hstart ▸ hcovers⟩⟩)
    · exact .inr (.inl ⟨b, hb, .inl htrailer⟩)
  · rcases hscans.covers hf hk hfront hbounded (Nat.le_refl 0) with (hb | ⟨m, hm, -⟩) | hopen
    · exact absurd hb hcovers
    · have hm' : m ∈ (scanBlocks .section f).malformed := hm
      rw [hmalformed] at hm'
      cases hm'
    · refine .inr (.inr ⟨fun b hb hc => hcovers ⟨b, hb, hc⟩, ?_⟩)
      rw [Nat.add_sub_cancel_left, hf, List.take_left]
      exact hopen

end PageRules.RuleText
