import Mathlib
import PageRules.Proofs.RuleText.Compose

/-!
# Brackets that are left open

Behind the brace of a section a bracket that is not closed on its line goes on over the lines that
follow, up to a bracket that closes it. So what stands between them is lost to the sections; where
no section begins there and no brace is parted from its match, none is lost (`scopes_openLine`).
-/

namespace PageRules.RuleText

variable {k : Keyword} {s t : Text}

/-! ## Groups that take a text in -/

theorem optionRun_ends (t : Text) : (optionRun t).1 = [] ∨ ∃ u, (optionRun t).1 = u ++ [']'] := by
  fun_induction optionRun t with
  | case1 t group after hg more rest hr ih =>
    obtain ⟨-, blank, inner, rfl, -, -⟩ := group?_eq_some hg
    rw [hr] at ih
    rcases ih with hnil | ⟨u, hu⟩
    · simp only at hnil
      exact .inr ⟨blank ++ '[' :: inner, by rw [hnil]; simp⟩
    · simp only at hu
      exact .inr ⟨blank ++ '[' :: inner ++ ']' :: u, by rw [hu]; simp⟩
  | case2 => exact .inl rfl

/-- A bracket that is open at the end of a line, in front of lines. -/
def openLine (g t : Text) : Text := ' ' :: '[' :: (g ++ '\n' :: t)

/-- What the groups that begin on the line take of the lines after it. -/
def swallowed (g t : Text) : Text := (optionRun (openLine g t)).1.drop (g.length + 3)

theorem drop_openLine (g t : Text) : (openLine g t).drop (g.length + 3) = t := by
  have hopen : openLine g t = ' ' :: '[' :: (g ++ ['\n']) ++ t := by simp [openLine]
  rw [hopen, List.drop_left' (by simp)]

theorem group?_openLine (g t : Text) :
    group? (openLine g t) = (Text.splitOnce (· == ']') (g ++ '\n' :: t)).map fun (inner, after) =>
      (' ' :: '[' :: inner ++ [']'], after) := by
  rw [openLine, group?_space rfl, group?_open, Option.map_map]
  rfl

/-- The groups take nothing of lines without a closing bracket, and otherwise all up to such a
bracket. -/
theorem optionRun_openLine {g : Text} (hg : ']' ∉ g) (t : Text) :
    (']' ∉ t ∧ optionRun (openLine g t) = ([], openLine g t) ∧ swallowed g t = []) ∨
      ∃ w rest, t = w ++ ']' :: rest ∧ swallowed g t = w ++ [']'] ∧
        optionRun (openLine g t) = (openLine g (w ++ [']']), rest) := by
  have hgroup := group?_openLine g t
  by_cases ht : ']' ∈ t
  · obtain ⟨inner, after, rfl, hinner⟩ := List.eq_append_cons_of_mem ht
    have hsplit : Text.splitOnce (· == ']') (g ++ '\n' :: (inner ++ ']' :: after)) =
        some (g ++ '\n' :: inner, after) := by
      have hfront : ']' ∉ g ++ '\n' :: inner := by simp [hg, hinner]
      have htext : g ++ '\n' :: (inner ++ ']' :: after) = g ++ '\n' :: inner ++ ']' :: after := by
        simp
      rw [htext, Text.splitOnce_append (Text.beq_eq_false_of_mem hfront) rfl]
    rw [hsplit] at hgroup
    have hrun := optionRun_of_some hgroup
    obtain ⟨w, hw⟩ : ∃ w, inner ++ ']' :: (optionRun after).1 = w ++ [']'] := by
      rcases optionRun_ends after with hnil | ⟨u, hu⟩
      · exact ⟨inner, by rw [hnil]⟩
      · exact ⟨inner ++ ']' :: u, by rw [hu, List.append_assoc, List.cons_append]⟩
    have hopen : ' ' :: '[' :: (g ++ '\n' :: inner) ++ [']'] ++ (optionRun after).1 =
        openLine g (w ++ [']']) := by
      rw [← hw]
      simp [openLine]
    rw [hopen] at hrun
    refine .inr ⟨w, (optionRun after).2, ?_, by rw [swallowed, hrun, drop_openLine], hrun⟩
    have htail : w ++ ']' :: (optionRun after).2 = w ++ [']'] ++ (optionRun after).2 := by simp
    rw [htail, ← hw, List.append_assoc, List.cons_append, optionRun_append]
  · have hsplit : Text.splitOnce (· == ']') (g ++ '\n' :: t) = none :=
      Text.splitOnce_eq_none (Text.beq_eq_false_of_mem (by simp [hg, ht]))
    rw [hsplit] at hgroup
    have hrun := optionRun_of_none hgroup
    exact .inl ⟨ht, hrun, by rw [swallowed, hrun, List.drop_nil]⟩

/-- A scan that passes over the beginning of a text goes on in the rest at depth zero. -/
theorem blocks_scanFrom_behind {u v w : Text} {pos depth d : Nat} {b : Bool}
    (hu : u = w ++ ']' :: v) (hw : braceDepth? d w = some 0) (hv : braceDepth? 0 v = some 0)
    (hle : depth ≤ d) (hstart : ∀ x ∈ (scanFrom k pos depth b u).blocks, pos + w.length < x.start) :
    (scanFrom k pos depth b u).blocks = (scanFrom k (pos + w.length + 1) 0 false v).blocks := by
  fun_induction scanFrom k pos depth b u generalizing w d with
  | case1 => simp at hu
  | case2 pos depth b c rest ho ih =>
    cases eq_of_beq ho
    cases w with
    | nil => cases hu
    | cons e w =>
      cases hu
      rw [add_length_cons] at hstart ⊢
      exact ih rfl hw (Nat.succ_le_succ hle) hstart
  | case3 pos depth b c rest _ hc ih =>
    cases eq_of_beq hc
    cases w with
    | nil => cases hu
    | cons e w =>
      cases hu
      cases d with
      | zero => cases hw
      | succ d =>
        rw [add_length_cons] at hstart ⊢
        exact ih rfl hw (Nat.sub_le_of_le_add hle) hstart
  | case4 pos depth b c rest ho hc hr ih =>
    cases w with
    | nil =>
      cases hu
      cases hw
      cases Nat.le_zero.mp hle
      rfl
    | cons e w =>
      cases hu
      rw [braceDepth?_cons (by simpa using ho) (by simpa using hc)] at hw
      rw [add_length_cons] at hstart ⊢
      exact ih rfl hw hle hstart
  | case5 pos depth b c rest ho hc size after hr _ ih =>
    obtain ⟨word, hword, ht, rfl, -⟩ := Opening.fits_readIf hr
    -- the bracket is no part of a keyword, so the whole of the keyword stands in front of it
    obtain ⟨w', rfl, rfl⟩ := Text.exists_append_of_not_mem (ht.symm.trans hu)
      (hword.not_mem (Keyword.barrier_of_mem (by decide)))
    rw [braceDepth?_append_of_not_mem hword.no_brace.1 hword.no_brace.2] at hw
    rw [add_length_append] at hstart ⊢
    exact ih rfl hw (Nat.zero_le d) hstart
  | case6 pos depth b c rest ho hc size after hr _ ih =>
    obtain ⟨word, header, hword, hh, ht, -, hnone⟩ := Opening.fits_readIf hr
    have hd : braceDepth? d (c :: rest) = some 0 := by
      rw [hu, braceDepth?_append, hw, Option.bind_some, braceDepth?_cons (by decide) (by decide),
        hv]
    rw [ht] at hd
    exact absurd hnone (body?_ne_none_of_braceDepth hword hh (by simpa using hd))
  | case7 pos depth b c rest ho hc lead header body trailer after hr _ bodyStart =>
    have := hstart _ List.mem_cons_self
    simp only at this
    omega

/-! ## Rules -/

theorem filterMap_cons_eq {α β : Type} (f : α → Option β) (a : α) (l : List α) :
    (a :: l).filterMap f = (f a).toList ++ l.filterMap f := by
  rw [List.filterMap_cons]
  cases f a <;> rfl

/-- The template with other options for its section. -/
def withOptions (o : OptionSet) (t : Template) : Template := { t with sectionOptions := o }

/-- The rule with other options for its section. -/
def withSectionOptions (o : OptionSet) (r : Rule) : Rule :=
  { r with toTemplate := withOptions o r.toTemplate }

theorem defineField_withOptions (o : OptionSet) (start : Nat) (t : Template) (f : Field)
    (definition : Text) :
    defineField start (withOptions o t) f definition =
      withOptions o <$> defineField start t f definition := by
  unfold defineField
  dsimp only
  split
  · rw [map_bind]
    rfl
  · split
    · simp only [map_bind]
      rfl
    · rw [map_bind]
      rfl

theorem addLine_withOptions (o : OptionSet) (t : Template) (line : Fragment) :
    addLine (withOptions o t) line = withOptions o <$> addLine t line := by
  unfold addLine
  dsimp only
  split
  · rfl
  · split
    · exact defineField_withOptions ..
    · rfl

theorem addLines_withOptions (o : OptionSet) (t : Template) (lines : List Fragment) :
    addLines (withOptions o t) lines = withOptions o <$> addLines t lines := by
  induction lines generalizing t with
  | nil => rfl
  | cons line lines ih =>
    rw [addLines, List.foldlM_cons, addLine_withOptions, addLines, List.foldlM_cons]
    simp only [map_bind, bind_map_left]
    exact congrArg _ (funext ih)

theorem sectionBody_withOptions (o : OptionSet) (t : Template) (body : Fragment) :
    (sectionBody (withOptions o t) body).value =
      withSectionOptions o (sectionBody t body).value := by
  unfold sectionBody
  simp only [Noted.value_bind, addLines_withOptions]
  rfl

/-- More groups change the options of the section only. -/
theorem value_section?_addGroups (b : Block) (run : Text) :
    ∃ o, (section? (b.addGroups run)).value = (section? b).value.map (withSectionOptions o) := by
  unfold section?
  dsimp only [Block.addGroups]
  split
  · exact ⟨.empty, rfl⟩
  · split
    · exact ⟨.empty, rfl⟩
    · simp only [Noted.value_bind, Noted.value_pure, Option.map_some, ← sectionBody_withOptions]
      exact ⟨_, rfl⟩

/-! ## Texts -/

/-- What is free of these characters stands inside a group, and opens no block. -/
def groupMarks : List Char := ['[', ']', '\x7b', '\x7d', ':', '\n', '\r']

theorem text_openLine {g : Text} (hs : s.getLast? = some '\x7d')
    (hclosed : (normalize s).unclosed = none) (hg : Text.Free groupMarks g) (t : Text) :
    EndsClosed (normalize s).text ∧ (normalize s).text ≠ [] ∧
      (normalize (s ++ openLine g t)).text =
        (normalize s).text ++ openLine g (normalize t).text := by
  obtain ⟨u, rfl⟩ := List.getLast?_eq_some_iff.mp hs
  -- Up to its brace the text closes its comments, since the brace itself closes none.
  have hunified : unified (u ++ ['\x7d']) = unified u ++ ['\x7d'] :=
    unified_append_cons (by decide) u []
  have hfree : Text.Free ['\r'] (' ' :: '[' :: g) :=
    ((hg.mono (by simp [groupMarks])).cons (by decide)).cons (by decide)
  have hself : normalize (u ++ ['\x7d']) = Normal.strip {} none (unified u ++ ['\x7d']) := by
    rw [normalize, hunified]
  rw [hself] at hclosed ⊢
  obtain ⟨hnone, htext⟩ := Normal.strip_concat (by decide) (by decide) hclosed
  have hline : unified (u ++ ['\x7d'] ++ openLine g t) =
      (unified u ++ '\x7d' :: ' ' :: '[' :: g) ++ '\n' :: unified t := by
    have hopen : openLine g t = ' ' :: '[' :: g ++ '\n' :: t := rfl
    rw [List.append_assoc, List.singleton_append, unified_append_cons (by decide), hopen,
      (lineFeeds_of_free hfree).unified_append_line, List.append_assoc]
    rfl
  obtain ⟨place', -, hgroup⟩ := Normal.strip_append_cons (c := '\x7d') (by decide) (by decide) {}
    none (unified u) (' ' :: '[' :: g)
  have hpair : ¬ Text.HasPair '/' '*' ('\x7d' :: ' ' :: '[' :: g) :=
    (hfree.cons (by decide)).no_comment
  rw [hnone, Normal.strip_eq_self hpair, Normal.prepend_eq] at hgroup
  refine ⟨?_, by rw [htext]; simp, ?_⟩
  · rw [htext]
    intro c hc
    simpa using hc.symm
  · rw [normalize_of_unified hline (by rw [hgroup]), hgroup, htext, Normal.prepend_eq]
    simp [openLine, Normal.later]

/-- The line opens no block. -/
theorem scanFrom_openLine {g : Text} (hg : Text.Free groupMarks g)
    (k : Keyword) (pos : Nat) (b : Bool) (t : Text) :
    scanFrom k pos 0 b (openLine g t) = scanFrom k (pos + (g.length + 3)) 0 true t := by
  have hopen : openLine g t = ' ' :: '[' :: g ++ '\n' :: t := rfl
  have hcolon : ':' ∉ ' ' :: '[' :: g := by simpa using hg.not_mem ':' (by decide)
  rw [hopen, scanFrom_line (by simpa using hg.not_mem '\x7b' (by decide))
    (by simpa using hg.not_mem '\x7d' (by decide)) (Keyword.occurs_of_not_colon_mem hcolon b)]
  rfl

/-- The text ends in the brace of a section. Neither text has a path block, or a comment or a brace
that it leaves open. -/
@[mk_iff] structure OpensGroup (s g t : Text) : Prop where
  ends : s.getLast? = some '\x7d'
  ends_section : ∃ b ∈ (scanBlocks .section (normalFragment s)).blocks,
    b.stop = (normalize s).text.length
  comments_closed : (normalize s).unclosed = none
  braces_closed : braceDepth? 0 (normalize s).text = some 0
  no_path : pathBlocks s = []
  group_free : Text.Free groupMarks g
  later_comments_closed : (normalize t).unclosed = none
  later_braces_closed : braceDepth? 0 (normalize t).text = some 0
  later_no_path : pathBlocks t = []

instance (s g t : Text) : Decidable (OpensGroup s g t) := decidable_of_iff' _ (opensGroup_iff s g t)

/-- Option groups take in no section and no brace without its match: those of a section of the first
text end in it, and those that begin on the line end in front of the sections of the second. -/
@[mk_iff] structure GroupsLocal (s g t : Text) : Prop where
  earlier : ∀ b ∈ (scanBlocks .section (normalFragment s)).blocks,
    ']' ∈ (normalize t).text → '[' ∉ (((normalize s).text.drop b.stop).dropWhile Text.isSpace).head?
  balanced : braceDepth? 0 (swallowed g (normalize t).text) = some 0
  starts : ∀ b ∈ (scanBlocks .section (normalFragment t)).blocks,
    (swallowed g (normalize t).text).length ≤ b.start

instance (s g t : Text) : Decidable (GroupsLocal s g t) :=
  decidable_of_iff' _ (groupsLocal_iff s g t)

section

variable {g : Text} (h : OpensGroup s g t)
include h

theorem pathBlocks_openLine : pathBlocks (s ++ openLine g t) = [] := by
  obtain ⟨hends, hne, htext⟩ := text_openLine h.ends h.comments_closed h.group_free t
  have hnone : (scanFrom .path 0 0 true (normalize s).text).blocks = [] := h.no_path
  have hbefore : ∀ x ∈ (scanFrom .path 0 0 true (normalize s).text).blocks,
      x.EndsBefore 0 (normalize s).text (openLine g (normalize t).text) := by
    rw [hnone]
    simp
  obtain ⟨early, last?, hgo⟩ := scanFrom_append_text h.braces_closed (Nat.le_refl 0) (.brace hends)
    (fun he => absurd he hne) hbefore
  rw [hgo.found_eq, Scan.blocks_append, List.append_eq_nil_iff] at hnone
  have hlast : last? = none := by simpa using hnone.2
  have hlater : (scanFrom .path 0 0 true (normalize t).text).blocks = [] := h.later_no_path
  rw [pathBlocks, normalFragment, htext, scanBlocks]
  dsimp only
  rw [hgo.goneOn_eq, hlast, Scan.blocks_append, hnone.1, resumed, scanFrom_openLine h.group_free,
    ← Nat.zero_add (0 + _ + _), scanFrom_shift, Scan.blocks_shift, hlater]
  rfl

/-- Where the groups stay local, the scan behind the first text finds the blocks of the second. -/
theorem blocks_resumed (hlocal : GroupsLocal s g t) (pos : Nat) (b : Block) :
    (resumed .section pos (openLine g (normalize t).text) (some b)).blocks =
      b.addGroups (optionRun (openLine g (normalize t).text)).1 ::
        (scanBlocks .section (normalFragment t)).blocks.map (·.shift (pos + (g.length + 3))) := by
  have hg : ']' ∉ g := h.group_free.not_mem _ (by decide)
  rw [resumed, Scan.consBlock]
  rcases optionRun_openLine hg (normalize t).text with ⟨-, hrun, -⟩ | ⟨w, rest, ht, hw, hrun⟩
  · have hshift := scanFrom_shift (n := pos + (g.length + 3)) .section 0 0 true (normalize t).text
    rw [Nat.zero_add] at hshift
    rw [hrun, scanFrom_openLine h.group_free, List.length_nil, Nat.add_zero, hshift]
    rfl
  · have hbalanced := hlocal.balanced
    have hstarts := hlocal.starts
    have hlater := h.later_braces_closed
    rw [hw] at hbalanced hstarts
    have hdepth : braceDepth? 0 w = some 0 := by
      obtain ⟨d, hd, hclose⟩ := braceDepth?_append_eq_some_iff.mp hbalanced
      rw [braceDepth?_cons (by decide) (by decide)] at hclose
      cases hclose
      exact hd
    have hrest : braceDepth? 0 rest = some 0 := by
      rw [ht, braceDepth?_append, hdepth, Option.bind_some,
        braceDepth?_cons (by decide) (by decide)] at hlater
      exact hlater
    have hbehind : (scanFrom .section 0 0 true (normalize t).text).blocks =
        (scanFrom .section (0 + w.length + 1) 0 false rest).blocks := by
      refine blocks_scanFrom_behind ht hdepth hrest (Nat.le_refl 0) fun x hx => ?_
      have := hstarts x hx
      rw [List.length_append, List.length_singleton] at this
      omega
    have hlength : pos + (openLine g (w ++ [']'])).length =
        0 + w.length + 1 + (pos + (g.length + 3)) := by
      simp [openLine]
      omega
    have hempty : (b.trailer.chars ++ openLine g (w ++ [']'])).isEmpty = false := by
      simp [openLine]
    rw [hrun, hlength, hempty, scanFrom_shift, Scan.blocks_shift, ← hbehind]
    rfl

/-- Where the groups stay local, a block of the first text that does not end it is not followed by
groups that go on. -/
theorem endsBefore_openLine (hlocal : GroupsLocal s g t) :
    ∀ x ∈ (scanFrom .section 0 0 true (normalize s).text).blocks,
      x.EndsBefore 0 (normalize s).text (openLine g (normalize t).text) := by
  intro x hx
  obtain ⟨hends, -, -⟩ := text_openLine h.ends h.comments_closed h.group_free t
  obtain ⟨u, after, htext, hstop, hnone⟩ := ((scans_scanFrom ..).standsIn hx).exists_behind
  rw [Nat.zero_add] at hstop
  have hdrop : (normalize s).text.drop x.stop = after := by rw [htext, hstop, List.drop_left]
  by_cases hafter : after = []
  · left
    rw [hstop, htext, hafter, List.append_nil, Nat.zero_add]
  right
  rw [Nat.sub_zero, hdrop]
  have hg : ']' ∉ g := h.group_free.not_mem _ (by decide)
  by_cases ht : ']' ∈ (normalize t).text
  · -- what stands behind the block begins with no bracket, and the end of it is no white space
    have hopen := hlocal.earlier x hx ht
    obtain ⟨w, hw⟩ := (hends.suffix ⟨u, htext.symm⟩).exists_eq hafter
    have hspace : after.dropWhile Text.isSpace ≠ [] := by
      rw [hw]
      intro hnil
      exact absurd (List.dropWhile_eq_nil_iff.mp hnil '\x7d' (by simp)) (by decide)
    rw [hdrop] at hopen
    refine group?_eq_none ?_
    rwa [List.dropWhile_append, if_neg (by simpa using hspace),
      List.head?_append_of_ne_nil _ hspace]
  · have hgroups : GroupsEnd after (openLine g (normalize t).text) := by
      refine groupsEnd_of_closed ?_ fun hmem => ?_
      · rcases optionRun_openLine hg (normalize t).text with ⟨-, hrun, -⟩ | ⟨w, rest, hw, -, -⟩
        · have := group?_optionRun (openLine g (normalize t).text)
          rwa [hrun] at this
        · exact absurd (hw ▸ by simp) ht
      · simp [openLine, hg, ht] at hmem
    rw [hgroups after (List.suffix_refl after), hnone]
    rfl

end

/-- A bracket that is left open behind a section costs none of the rules before and after it, where
the groups stay local; it can give the section other options. -/
theorem scopes_openLine {g : Text} (h : OpensGroup s g t) (hlocal : GroupsLocal s g t) :
    ∃ last earlier o, (scanBlocks .section (normalFragment s)).blocks.getLast? = some last ∧
      (compile s).rules = earlier ++ (section? last).value.toList ∧
      (compile (s ++ openLine g t)).scopes =
        [.catchAll (earlier ++ ((section? last).value.map (withSectionOptions o)).toList ++
          (compile t).rules)] := by
  obtain ⟨hends, hne, htext⟩ := text_openLine h.ends h.comments_closed h.group_free t
  obtain ⟨early, last?, hgo⟩ := scanFrom_append_text h.braces_closed (Nat.le_refl 0)
    (.brace hends) (fun he => absurd he hne) (endsBefore_openLine h hlocal)
  -- The section that ends the first text is the last one found in it.
  obtain ⟨last, rfl⟩ : ∃ last, last? = some last := by
    obtain ⟨b, hb, hstop⟩ := h.ends_section
    rw [scanBlocks, normalFragment] at hb
    dsimp only at hb
    rw [hgo.found_eq, Scan.blocks_append, List.mem_append] at hb
    rcases hb with hb | hb
    · exact absurd (hgo.early_stop b hb) (by omega)
    · exact ⟨b, by simpa using hb⟩
  have hfound : (scanBlocks .section (normalFragment s)).blocks = early.blocks ++ [last] := by
    rw [scanBlocks, normalFragment]
    dsimp only
    rw [hgo.found_eq]
    rfl
  have hgoneOn : (scanBlocks .section (normalFragment (s ++ openLine g t))).blocks =
      early.blocks ++ last.addGroups (optionRun (openLine g (normalize t).text)).1 ::
        (scanBlocks .section (normalFragment t)).blocks.map
          (·.shift (0 + (normalize s).text.length + (g.length + 3))) := by
    rw [scanBlocks, normalFragment, htext]
    dsimp only
    rw [hgo.goneOn_eq, Scan.blocks_append, blocks_resumed h hlocal]
  obtain ⟨o, ho⟩ := value_section?_addGroups last (optionRun (openLine g (normalize t).text)).1
  refine ⟨last, early.blocks.filterMap fun b => (section? b).value, o, ?_, ?_, ?_⟩
  · rw [hfound, List.getLast?_concat]
  · rw [rules_of_no_path h.no_path, value_sections, hfound, List.filterMap_append,
      filterMap_cons_eq, List.filterMap_nil, List.append_nil]
  · have hlater : ((scanBlocks .section (normalFragment t)).blocks.map
        (·.shift (0 + (normalize s).text.length + (g.length + 3)))).filterMap
          (fun b => (section? b).value) = (compile t).rules := by
      rw [rules_of_no_path h.later_no_path, value_sections, List.filterMap_map]
      congr 1
      funext b
      rw [Function.comp_apply, section?_shift, Noted.value_shift]
    have hvalue : (compile (s ++ openLine g t)).scopes =
        [.catchAll (sections (normalFragment (s ++ openLine g t))).value] :=
      value_scopes_of_no_path (pathBlocks_openLine h)
    rw [hvalue, value_sections, hgoneOn, List.filterMap_append, filterMap_cons_eq, hlater, ho,
      List.append_assoc]

/-- A text of a section, for an open bracket behind it. -/
def shopText : Text := "section: a .a \x7b text: h1 \x7d\nsection: b .b \x7b\n img: i\n\x7d".toList

/-- A text with a bracket in front of a section. -/
def bracketText : Text := "# all] of them\nsection: c .c \x7b text: p [limit: 1] \x7d".toList

/-- Text up to a bracket becomes options; sections before and behind it are kept. -/
theorem scopes_openLine_shopText :
    OpensGroup shopText "limit".toList bracketText ∧
      GroupsLocal shopText "limit".toList bracketText ∧
      ((compile (shopText ++ openLine "limit".toList bracketText)).rules.map (·.name)) =
        [['a'], ['b'], ['c']] := by
  have h : OpensGroup shopText "limit".toList bracketText := by decide +kernel
  have hlocal : GroupsLocal shopText "limit".toList bracketText := by decide +kernel
  obtain ⟨last, earlier, o, hlast, hrules, hscopes⟩ := scopes_openLine h hlocal
  refine ⟨h, hlocal, ?_⟩
  have hnames : (compile shopText).rules.map (·.name) = [['a'], ['b']] := by decide +kernel
  have hlater : (compile bracketText).rules.map (·.name) = [['c']] := by decide +kernel
  rw [hrules, List.map_append] at hnames
  have hname : ((section? last).value.map (withSectionOptions o)).toList.map (·.name) =
      (section? last).value.toList.map (·.name) := by
    cases (section? last).value <;> rfl
  rw [Compilation.rules, hscopes, List.flatMap_singleton]
  change (earlier ++ _ ++ _).map _ = _
  rw [List.map_append, List.map_append, hname, hnames, hlater]
  rfl

end PageRules.RuleText
