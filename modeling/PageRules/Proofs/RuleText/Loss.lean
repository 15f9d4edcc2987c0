import Mathlib
import PageRules.Proofs.RuleText.Silence

/-!
# Where sections are lost

Where a text compiles without a diagnostic, every line that begins a section is the header of one
rule, or it is lost in one of four ways that leave no diagnostic (`section_lines_of_silent`). One of
them is at odds with the notes that malformed blocks leave everywhere else: beside path blocks a
section that is never closed is passed over in silence (`section_lines_strayText`).
-/

namespace PageRules.RuleText

variable {k : Keyword} {t : Text}

/-- The fragment in which a section at the position is looked for: the body of a path block, or else
the whole text. -/
def fragmentAt (text : Text) (p : Nat) : Fragment :=
  match (scanBlocks .path ⟨0, text⟩).blocks.find? (fun b => b.body.Covers p) with
  | some b => b.body
  | none => ⟨0, text⟩

/-- A line begins at the position with the keyword of sections. -/
structure SectionLine (text : Text) (p : Nat) : Prop where
  keyword : (Keyword.section.after? (text.drop p)).isSome
  front : BlankFront (text.take p)

/-- Ways in which a line that begins a section can leave neither a rule nor a diagnostic. -/
inductive Lost (text : Text) (p : Nat) : Prop
  /-- The white space before the keyword does not bound it. -/
  | bound (h : boundedBehind true (text.take p) = false)
  | groups (h : InOptionGroups (fragmentAt text p) p)
  | braces (h : InForeignBraces (fragmentAt text p) p)
  /-- It opens no block, beside path blocks. -/
  | stray (hpaths : (scanBlocks .path ⟨0, text⟩).blocks ≠ [])
      (h : ∃ m ∈ (scanBlocks .section ⟨0, text⟩).malformed, m.start = p)

/-- The header at the position has the name and the selector of the rule. -/
def HeadedAt (text : Text) (p : Nat) (r : Rule) : Prop :=
  ∃ header after, Keyword.section.after? (text.drop p) = some (header ++ '\x7b' :: after) ∧
    IsHeader header ∧ sectionHead (Text.trim header) = (r.name, r.selector)

/-! ## Fragments of a text -/

/-- A position has one header. -/
theorem HeadedAt.head_eq {p : Nat} {q r : Rule} (hq : HeadedAt t p q) (hr : HeadedAt t p r) :
    (q.name, q.selector) = (r.name, r.selector) := by
  obtain ⟨header, after, hk, hh, hq⟩ := hq
  obtain ⟨header', after', hk', hh', hr⟩ := hr
  have htext := Option.some.inj (hk.symm.trans hk')
  have hsame := header?_append hh.no_open hh.no_close hh.no_break after
  rw [htext, header?_append hh'.no_open hh'.no_close hh'.no_break] at hsame
  cases hsame
  rw [← hq, hr]

/-- The fragment is a part of the text, at its place. -/
def Fragment.StandsIn (text : Text) (f : Fragment) : Prop :=
  ∃ front after, text = front ++ (f.chars ++ after) ∧ f.start = front.length

theorem Block.StandsIn.body {b : Block} (h : b.StandsIn k 0 t) :
    ∃ front after, t = front ++ (b.body.chars ++ '\x7d' :: after) ∧
      b.body.start = front.length := by
  obtain ⟨front, word, header, body, trailer, after, -, rfl, rfl⟩ := h
  refine ⟨front ++ (word ++ (header ++ ['\x7b'])), trailer ++ after, ?_, ?_⟩
  · simp [pieces, opened]
  · simp only [opened, List.length_append, List.length_cons, List.length_nil]
    omega

theorem headedAt_of_mem {f : Fragment} {b : Block} {r : Rule} (hf : f.StandsIn t)
    (hb : b ∈ (scanBlocks .section f).blocks)
    (hr : sectionHead b.header.text = (r.name, r.selector)) : HeadedAt t b.start r := by
  obtain ⟨front, rest, rfl, hstart⟩ := hf
  obtain ⟨before, word, header, body, trailer, after, hblock, hchars, rfl⟩ :=
    (scans_scanFrom .section f.start 0 true f.chars).standsIn hb
  have hdrop : (front ++ (f.chars ++ rest)).drop (f.start + before.length) =
      pieces word header body trailer ++ after ++ rest := by
    rw [hchars, hstart, ← List.length_append, List.append_assoc before, ← List.append_assoc front,
      List.drop_left]
  refine ⟨header, body ++ '\x7d' :: (trailer ++ after) ++ rest, ?_, hblock.is_header, hr⟩
  have hreads := Keyword.after?_append_of_some hblock.reads rest
  rw [List.append_assoc header, List.cons_append] at hreads
  rw [← hreads, ← hdrop]
  rfl

theorem starts_pairwise (f : Fragment) :
    ((scanBlocks k f).blocks.map (·.start)).Pairwise (· < ·) := by
  rw [List.pairwise_map]
  refine (scans_scanFrom k f.start 0 true f.chars).pairwise.imp_of_mem fun {a b} ha _ hab => ?_
  have hw := Block.within_of_mem (k := k) (f := f) ha
  have := hw.body
  have := hw.trailer
  simp only [Fragment.stop] at *
  omega

/-! ## Path blocks that leave no note -/

theorem addScope_silent {scopes : List PathScope} {b : Block} (h : (addScope scopes b).notes = []) :
    (sections b.body).notes = [] ∧
      (addScope scopes b).value.flatMap (·.rules) =
        scopes.flatMap (·.rules) ++ (sections b.body).value := by
  have hscope : (scope? scopes b).notes = [] := by
    rw [addScope, Noted.notes_bind, List.append_eq_nil_iff] at h
    exact h.1
  rw [value_addScope, List.flatMap_append]
  unfold scope? at hscope ⊢
  dsimp only at hscope ⊢
  split at hscope
  · cases hscope
  · rename_i hpattern
    split at hscope
    · cases hscope
    · rename_i hnew
      rw [if_neg hpattern, if_neg hnew]
      rw [Noted.notes_bind, List.append_eq_nil_iff] at hscope
      obtain ⟨hsections, hscope⟩ := hscope
      refine ⟨hsections, congrArg _ ?_⟩
      rw [Noted.value_bind]
      split at hscope
      · rename_i hempty
        rw [if_pos hempty, List.isEmpty_iff.mp hempty]
        rfl
      · rename_i hempty
        rw [if_neg hempty]
        split at hscope
        · rename_i hmade
          exact (List.append_nil _).trans (of_eq_ok hmade).2
        · cases hscope

theorem foldlM_addScope_silent {blocks : List Block} {scopes : List PathScope}
    (h : (blocks.foldlM addScope scopes).notes = []) :
    (∀ b ∈ blocks, (sections b.body).notes = []) ∧
      (blocks.foldlM addScope scopes).value.flatMap (·.rules) =
        scopes.flatMap (·.rules) ++ blocks.flatMap fun b => (sections b.body).value := by
  induction blocks generalizing scopes with
  | nil => simp
  | cons b blocks ih =>
    rw [List.foldlM_cons, Noted.notes_bind, List.append_eq_nil_iff] at h
    obtain ⟨hb, hrules⟩ := addScope_silent h.1
    obtain ⟨hblocks, hmore⟩ := ih h.2
    refine ⟨List.forall_mem_cons.mpr ⟨hb, hblocks⟩, ?_⟩
    rw [List.foldlM_cons, Noted.value_bind, hmore, hrules, List.flatMap_cons, List.append_assoc]

/-! ## Texts that leave no diagnostic -/

/-- What a line of the body of a path block comes to. -/
theorem sections_silent_line_of_path {b : Block} {p : Nat} (hb : b.StandsIn .path 0 t)
    (h : (sections b.body).notes = []) (hp : b.body.Covers p) (hline : SectionLine t p)
    (hbounded : boundedBehind true (t.take p) = true) :
    (∃ s ∈ (scanBlocks .section b.body).blocks, s.start = p) ∨ InOptionGroups b.body p ∨
      InForeignBraces b.body p := by
  obtain ⟨front, after, rfl, hstart⟩ := hb.body
  obtain ⟨n, rfl⟩ := Nat.exists_eq_add_of_le hp.1
  have hn : n ≤ b.body.chars.length := Nat.le_of_lt (Nat.lt_of_add_lt_add_left hp.2)
  have htake : (front ++ (b.body.chars ++ '\x7d' :: after)).take (b.body.start + n) =
      front ++ b.body.chars.take n := by
    rw [hstart, List.take_length_add_append, List.take_append_of_le_length hn]
  have hdrop : (front ++ (b.body.chars ++ '\x7d' :: after)).drop (b.body.start + n) =
      b.body.chars.drop n ++ '\x7d' :: after := by
    rw [hstart, List.drop_length_add_append, List.drop_append_of_le_length hn]
  have hkeyword := hline.keyword
  have hfront := hline.front
  rw [htake] at hfront hbounded
  rw [hdrop, Keyword.after?_append_barrier (Keyword.barrier_close .section), Option.isSome_map]
    at hkeyword
  have hbounded' : boundedBehind true (b.body.chars.take n) = true := by
    by_cases hne : b.body.chars.take n = []
    · rw [hne]
      rfl
    · rw [← hbounded, boundedBehind_append]
      exact boundedBehind_of_ne_nil hne ..
  have hall := sections_silent_line h (List.take_append_drop n _).symm hkeyword
    (hfront.suffix (List.suffix_append ..)) hbounded'
  rwa [List.length_take_of_le hn] at hall

theorem exists_of_forall₂ {α β : Type} {r : α → β → Prop} {l : List α} {m : List β}
    (h : List.Forall₂ r l m) {a : α} (ha : a ∈ l) : ∃ b ∈ m, r a b := by
  induction h with
  | nil => cases ha
  | cons hr _ ih =>
    rcases List.mem_cons.mp ha with rfl | ha
    · exact ⟨_, List.mem_cons_self, hr⟩
    · obtain ⟨b, hb, hr⟩ := ih ha
      exact ⟨b, List.mem_cons_of_mem _ hb, hr⟩

theorem forall₂_flatMap {α β γ : Type} {r : β → γ → Prop} {f : α → List β} {g : α → List γ}
    {l : List α} (h : ∀ a ∈ l, List.Forall₂ r (f a) (g a)) :
    List.Forall₂ r (l.flatMap f) (l.flatMap g) :=
  List.rel_flatMap (R := fun a b => List.Forall₂ r (f a) (g b)) (List.forall₂_same.mpr h)
    fun _ _ hfg => hfg

/-- The sections of a fragment that leaves no note, and their headers. -/
theorem heads_of_sections_silent {f : Fragment} (hf : f.StandsIn t) (h : (sections f).notes = []) :
    List.Forall₂ (HeadedAt t) ((scanBlocks .section f).blocks.map (·.start))
      (sections f).value := by
  rw [List.forall₂_map_left_iff]
  exact (rules_of_sections_silent h).imp fun b r ⟨hb, hr⟩ => headedAt_of_mem hf hb hr

theorem SectionLine.length_take {p : Nat} (h : SectionLine t p) : (t.take p).length = p := by
  refine List.length_take_of_le (Nat.le_of_not_lt fun hlt => ?_)
  have hkeyword := h.keyword
  rw [List.drop_eq_nil_of_le (Nat.le_of_lt hlt), Keyword.after?_nil] at hkeyword
  cases hkeyword

theorem fragmentAt_cases (t : Text) (p : Nat) :
    (∃ b ∈ (scanBlocks .path ⟨0, t⟩).blocks, b.body.Covers p ∧ fragmentAt t p = b.body) ∨
      fragmentAt t p = ⟨0, t⟩ := by
  unfold fragmentAt
  split
  · rename_i b hb
    exact .inl ⟨b, List.mem_of_find?_eq_some hb, by simpa using List.find?_some hb, rfl⟩
  · exact .inr rfl

/-- A text without path blocks. -/
theorem section_lines_of_no_path (hpaths : (scanBlocks .path ⟨0, t⟩).blocks = [])
    (h : (scopes ⟨0, t⟩).notes = []) :
    ∃ heads : List Nat, heads.Pairwise (· < ·) ∧
      List.Forall₂ (HeadedAt t) heads ((scopes ⟨0, t⟩).value.flatMap (·.rules)) ∧
      ∀ p, SectionLine t p → p ∈ heads ∨ Lost t p := by
  rw [notes_scopes_of_no_path hpaths, List.append_eq_nil_iff] at h
  rw [value_scopes_of_no_path hpaths, List.flatMap_singleton]
  have hwhole : Fragment.StandsIn t ⟨0, t⟩ := ⟨[], [], by simp, rfl⟩
  refine ⟨(scanBlocks .section ⟨0, t⟩).blocks.map (·.start), starts_pairwise _,
    heads_of_sections_silent hwhole h.2, fun p hline => ?_⟩
  have hfragment : fragmentAt t p = ⟨0, t⟩ := by
    rw [fragmentAt, hpaths]
    rfl
  cases hbounded : boundedBehind true (t.take p) with
  | false => exact .inr (.bound hbounded)
  | true =>
    have hall := sections_silent_line h.2 (List.take_append_drop p t).symm hline.keyword
      hline.front hbounded
    rw [hline.length_take, Nat.zero_add, ← hfragment] at hall
    rcases hall with ⟨b, hb, hstart⟩ | hgroups | hbraces
    · rw [hfragment] at hb
      exact .inl (List.mem_map.mpr ⟨b, hb, hstart⟩)
    · exact .inr (.groups hgroups)
    · exact .inr (.braces hbraces)

/-- Sections of path blocks follow one another as the blocks do. -/
theorem path_starts_pairwise (t : Text) :
    ((scanBlocks .path ⟨0, t⟩).blocks.flatMap fun b =>
      (scanBlocks .section b.body).blocks.map (·.start)).Pairwise (· < ·) := by
  rw [List.pairwise_flatMap]
  refine ⟨fun b _ => starts_pairwise b.body, ?_⟩
  refine (scans_scanFrom .path 0 0 true t).pairwise.imp_of_mem fun {a b} ha hb hab p hp q hq => ?_
  obtain ⟨s, hs, rfl⟩ := List.mem_map.mp hp
  obtain ⟨r, hr, rfl⟩ := List.mem_map.mp hq
  calc s.start ≤ a.body.stop := (Block.within_of_mem hs).start_le
    _ < a.stop := (Block.within_of_mem (k := .path) (f := ⟨0, t⟩) ha).trailer
    _ ≤ b.start := hab
    _ < b.body.start := (Block.within_of_mem (k := .path) (f := ⟨0, t⟩) hb).body
    _ ≤ r.start := (Block.within_of_mem hr).start

/-- A text with path blocks. -/
theorem section_lines_of_paths (hpaths : (scanBlocks .path ⟨0, t⟩).blocks ≠ [])
    (h : (scopes ⟨0, t⟩).notes = []) :
    ∃ heads : List Nat, heads.Pairwise (· < ·) ∧
      List.Forall₂ (HeadedAt t) heads ((scopes ⟨0, t⟩).value.flatMap (·.rules)) ∧
      ∀ p, SectionLine t p → p ∈ heads ∨ Lost t p := by
  rw [notes_scopes_of_paths hpaths, List.append_eq_nil_iff, List.append_eq_nil_iff] at h
  obtain ⟨-, hstray, hscopes⟩ := h
  have hnone : (scanBlocks .section ⟨0, t⟩).blocks = [] := List.map_eq_nil_iff.mp hstray
  obtain ⟨hsections, hrules⟩ := foldlM_addScope_silent hscopes
  have hscans := scans_scanFrom .path 0 0 true t
  rw [value_scopes_of_paths hpaths, hrules, List.flatMap_nil, List.nil_append]
  refine ⟨(scanBlocks .path ⟨0, t⟩).blocks.flatMap fun b =>
    (scanBlocks .section b.body).blocks.map (·.start), path_starts_pairwise t, ?_,
    fun p hline => ?_⟩
  · refine forall₂_flatMap fun b hb => heads_of_sections_silent ?_ (hsections b hb)
    obtain ⟨front, after, ht, hstart⟩ := (hscans.standsIn hb).body
    exact ⟨front, _, ht, hstart⟩
  · cases hbounded : boundedBehind true (t.take p) with
    | false => exact .inr (.bound hbounded)
    | true =>
      rcases fragmentAt_cases t p with ⟨b, hb, hcovers, hfragment⟩ | hfragment
      · have hall := sections_silent_line_of_path (hscans.standsIn hb) (hsections b hb) hcovers
          hline hbounded
        rw [← hfragment] at hall
        rcases hall with ⟨s, hs, hstart⟩ | hgroups | hbraces
        · rw [hfragment] at hs
          exact .inl (List.mem_flatMap.mpr ⟨b, hb, List.mem_map.mpr ⟨s, hs, hstart⟩⟩)
        · exact .inr (.groups hgroups)
        · exact .inr (.braces hbraces)
      · -- Outside the bodies of path blocks a section that is found leaves a note.
        right
        have hcovers := (scans_scanFrom .section 0 0 true t).covers
          (List.take_append_drop p t).symm hline.keyword hline.front hbounded (Nat.le_refl 0)
        rcases hcovers with (⟨b, hb, -⟩ | ⟨m, hm, hstart⟩) | hopen
        · have hb : b ∈ (scanBlocks .section ⟨0, t⟩).blocks := hb
          rw [hnone] at hb
          cases hb
        · rw [hline.length_take, Nat.zero_add] at hstart
          exact .stray hpaths ⟨m, hm, hstart⟩
        · refine .braces ?_
          rw [hfragment]
          exact ⟨by simp [hnone], hopen⟩

/-- Where a text compiles without a diagnostic, its rules have distinct headers in the order of the
text, and every line that begins a section is one of them or is lost. -/
theorem section_lines_of_silent {raw : Text} (h : (compile raw).diagnostics = []) :
    ∃ heads : List Nat, heads.Pairwise (· < ·) ∧
      List.Forall₂ (HeadedAt (normalize raw).text) heads (compile raw).rules ∧
      ∀ p, SectionLine (normalize raw).text p → p ∈ heads ∨ Lost (normalize raw).text p := by
  rw [diagnostics_compile, List.append_eq_nil_iff, List.map_eq_nil_iff] at h
  by_cases hpaths : pathBlocks raw = []
  · exact section_lines_of_no_path hpaths h.2
  · exact section_lines_of_paths hpaths h.2

/-- A section that is never closed, after a path block. -/
def strayText : Text :=
  "path: /x \x7b section: a .a \x7b \x7d \x7d\nsection: b .b \x7b".toList

/-- The section after the path block begins a line, and neither a rule nor a diagnostic comes of
it. -/
theorem section_lines_strayText :
    (compile strayText).diagnostics = [] ∧ SectionLine (normalize strayText).text 31 ∧
      (compile strayText).rules.map (·.name) = [['a']] ∧ Lost (normalize strayText).text 31 := by
  have hsilent : (compile strayText).diagnostics = [] := by decide +kernel
  have hline : SectionLine (normalize strayText).text 31 := ⟨by decide +kernel, by decide +kernel⟩
  have hnames : (compile strayText).rules.map (·.name) = [['a']] := by decide +kernel
  have hheader : HeadedAt (normalize strayText).text 31 (.of ['b'] ".b".toList) :=
    ⟨" b .b ".toList, [], by decide +kernel, ⟨by decide, by decide, by decide⟩, by decide +kernel⟩
  obtain ⟨heads, -, hheads, hlines⟩ := section_lines_of_silent hsilent
  refine ⟨hsilent, hline, hnames, (hlines 31 hline).resolve_left fun hmem => ?_⟩
  obtain ⟨r, hr, hheaded⟩ := exists_of_forall₂ hheads hmem
  have hname : r.name ∈ [['a']] := hnames ▸ List.mem_map_of_mem hr
  have hb : ['b'] = r.name := congrArg Prod.fst (hheader.head_eq hheaded)
  rw [← hb] at hname
  exact absurd hname (by decide)

end PageRules.RuleText
