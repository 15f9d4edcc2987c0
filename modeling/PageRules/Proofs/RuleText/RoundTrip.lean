import Mathlib
import PageRules.Proofs.RuleText.Section

/-!
# Compiling undoes writing

A rule text that was written from a page type and scopes gives both back and nothing is noted
(`compile_write`). Without a scope there is no path block, and what comes back is the implicit scope
without rules.
-/

namespace PageRules

open RuleText

/-! ## Paths -/

theorem PathScope.Writable.blockText {s : PathScope} (h : s.Writable) :
    BlockText s.pattern (s.rules.flatMap Rule.lines) [] where
  header_chars := ⟨fun hc => (h.pattern_chars _ hc).2.1 rfl,
    fun hc => (h.pattern_chars _ hc).2.2.1 rfl,
    fun hc => absurd (h.pattern_chars _ hc).1 (by decide)⟩
  inner_balanced := .unlines_flatMap fun r hr => (h.rules r hr).blockText.balanced (by simp) _
  options_chars := by simp
  trailer _ := optionRun_of_none

namespace RuleText

theorem reportMalformed_nil (k : Keyword) : reportMalformed k [] = pure () := rfl

/-- The body of a path gives its rules back. -/
theorem sections_written {rules : List Rule} (h : ∀ r ∈ rules, r.Writable) {body : Fragment}
    (hb : body.chars = '\n' :: Text.unlines (rules.flatMap Rule.lines)) :
    sections body = pure rules := by
  obtain ⟨blocks, hscan, hblocks⟩ := scanFrom_blocks .section "  ".toList
    (fun r : Rule => r.name ++ ' ' :: r.selector)
    (fun r => r.fieldLines "    ".toList ++ r.items.elim [] Template.itemLines)
    (fun r => r.sectionOptions.write) (by simp) (fun r hr => (h r hr).blockText) (body.start + 1)
  have hbody : scanBlocks .section body = { blocks } := by
    rw [scanBlocks, hb, scanFrom_newline]
    exact hscan
  have hmake : List.Forall₂ (fun r b => section? b = pure (some r)) rules blocks := by
    refine List.Forall₂.imp ?_ ((List.forall₂_and_left _ _).mpr ⟨h, hblocks⟩)
    rintro r b ⟨hr, pos, rfl⟩
    exact hr.section?_written pos
  rw [sections, hbody, reportMalformed_nil, pure_bind]
  exact Noted.collect_pure hmake

theorem pathScope_of {s : PathScope} : PathScope.of s.pattern s.rules = .ok s := by
  obtain ⟨⟨pattern, tokens, hread⟩, rules⟩ := s
  rw [PathScope.of, PathScope.pattern, Glob.ofPattern]
  split
  · rename_i h
    rw [hread] at h
    cases h
    rfl
  · rename_i h
    rw [hread] at h
    cases h

/-- The block of a path gives its scope back, after scopes of other patterns. -/
theorem scope?_written {s : PathScope} (h : s.Writable) {before : List PathScope}
    (hs : ∀ t ∈ before, t.pattern ≠ s.pattern) (pos : Nat) :
    scope? before (.written pos [] .path s.pattern (s.rules.flatMap Rule.lines) []) =
      pure (some s) := by
  generalize hb : Block.written pos [] .path s.pattern (s.rules.flatMap Rule.lines) [] = b
  have hheader : b.header.chars = ' ' :: s.pattern ++ [' '] := by rw [← hb]; rfl
  have hbody : b.body.chars = '\n' :: Text.unlines (s.rules.flatMap Rule.lines) := by
    rw [← hb, ← List.append_nil ('\n' :: _)]
    rfl
  have hne : s.pattern ≠ [] := by
    intro hn
    have := h.pattern_slash
    rw [hn] at this
    exact absurd this (by decide)
  have hhead : b.header.text = s.pattern :=
    text_header hne (Text.trimmed_of_forall fun c hc => (h.pattern_chars c hc).1) hheader
  have hany : before.any (·.pattern == s.pattern) = false := by
    simpa using hs
  have hrules : s.rules.isEmpty = false := by simpa using h.rules_ne_nil
  unfold scope?
  dsimp only
  rw [hhead, if_neg hne, hany, if_neg Bool.false_ne_true, sections_written h.rules hbody, pure_bind,
    hrules, if_neg Bool.false_ne_true, pathScope_of]

/-- The blocks of paths give their scopes back, after scopes of other patterns. -/
theorem foldlM_addScope_written (before : List PathScope) {scopes : List PathScope}
    {blocks : List Block} (h : ∀ s ∈ scopes, s.Writable)
    (hn : ((before ++ scopes).map (·.pattern)).Nodup)
    (hb : List.Forall₂ (fun s b => ∃ pos,
      b = .written pos [] .path s.pattern (s.rules.flatMap Rule.lines) []) scopes blocks) :
    blocks.foldlM addScope before = pure (before ++ scopes) := by
  induction hb generalizing before with
  | nil =>
    rw [List.append_nil]
    rfl
  | @cons s b scopes blocks hb _ ih =>
    obtain ⟨pos, rfl⟩ := hb
    have hs : ∀ t ∈ before, t.pattern ≠ s.pattern := by
      intro t ht he
      rw [List.map_append] at hn
      exact List.disjoint_of_nodup_append hn (List.mem_map_of_mem ht) (by simp [he])
    have happ : before ++ s :: scopes = (before ++ [s]) ++ scopes := by simp
    rw [happ] at hn ⊢
    rw [List.foldlM_cons, addScope, scope?_written (h s List.mem_cons_self) hs, pure_bind,
      pure_bind]
    exact ih _ (fun t ht => h t (List.mem_cons_of_mem _ ht)) hn

/-! ## The whole text -/

section

variable {pageType : Text} (hp : pageType.all isNameChar = true)
include hp

theorem plain_pageLine : Text.Plain ("page-type: ".toList ++ pageType) := by
  have hname : Text.Plain ("page-type".toList) := plain_of_isNameChar (all_isNameChar rfl)
  exact hname.append_cons ((plain_of_isNameChar hp).cons (c := ' ') (by decide)) (by decide)

/-- A scan passes over the line that declares the page type. -/
theorem scanFrom_pageLine (k : Keyword) (s : Text) :
    scanFrom k 0 0 true (("page-type: ".toList ++ pageType) ++ '\n' :: s) =
      scanFrom k (0 + ("page-type: ".toList ++ pageType).length + 1) 0 true s := by
  have hline := plain_pageLine hp
  have hocc : k.occurs true ("page-type: ".toList ++ pageType) = k.occurs true pageType := by
    cases k <;> rfl
  have hcolon : ':' ∉ pageType := fun hc =>
    not_mem_marks (List.all_eq_true.mp hp _ hc) (by decide)
  refine scanFrom_line (hline.not_mem _ (by simp)) (hline.not_mem _ (by simp)) ?_ 0 s
  rw [hocc, Keyword.occurs_of_not_colon_mem hcolon]

theorem pageTypeOf?_pageLine (hn : pageType ≠ []) :
    pageTypeOf? ("page-type: ".toList ++ pageType) = some pageType := by
  have hblank : ∀ c ∈ pageType, Text.isBlank c = false := fun c hc =>
    not_isBlank (List.all_eq_true.mp hp c hc)
  have htrim : Text.Trimmed ("page-type: ".toList ++ pageType) := by
    have hname : Text.Trimmed "page-type".toList := by decide
    simpa using Text.trimmed_append hname (trimmed_of_isNameChar hp) (by simp) hn [':', ' ']
  have hafter : Keyword.afterWord? "page-type".toList ("page-type: ".toList ++ pageType) =
      some (':' :: ' ' :: pageType) := rfl
  have hwords : Text.words (' ' :: pageType) = [pageType] := by
    have hs := Text.splitOn_append (p := Text.isBlank) (t := []) (d := ' ') (by simp) rfl pageType
    rw [List.nil_append, Text.splitOn_of_forall_not hblank] at hs
    rw [Text.words, hs]
    simp [hn]
  have hstart : Text.trimStart (':' :: ' ' :: pageType) = ':' :: ' ' :: pageType :=
    Text.trimStart_eq_self_iff.mpr (by simp [Text.isBlank])
  rw [pageTypeOf?, htrim, hafter]
  simp [hstart, hwords]

theorem pageType?_write (hn : pageType ≠ []) (s : Text) :
    pageType? (("page-type: ".toList ++ pageType) ++ '\n' :: s) = some pageType := by
  have hl := Text.beq_eq_false_of_mem ((plain_pageLine hp).not_mem '\n' (by simp))
  rw [pageType?, Text.lines, Text.splitOn_append hl rfl, List.findSome?_cons,
    pageTypeOf?_pageLine hp hn]

end

end RuleText

theorem PathScope.Writable.boundsKeyword {s : PathScope} (h : s.Writable) {c : Char}
    (hc : c ∈ s.pattern) : boundsKeyword c = false := by
  obtain ⟨hb, ho, hcl, hs⟩ := h.pattern_chars c hc
  by_contra hk
  simp only [RuleText.boundsKeyword, Bool.not_eq_false, Bool.or_eq_true, beq_iff_eq] at hk
  rcases hk with ((((rfl | rfl) | rfl) | rfl) | rfl) | rfl
  · cases hb
  · cases hb
  · cases hb
  · exact ho rfl
  · exact hcl rfl
  · exact hs rfl

/-- A pattern begins with a slash and bounds no keyword further on. -/
theorem PathScope.Writable.occurs_section {s : PathScope} (h : s.Writable) :
    Keyword.section.occurs true s.pattern = false := by
  obtain ⟨rest, hrest⟩ := h.pattern_slash
  have hout := Keyword.occurs_append_of_not_bounds (k := .section) (fun _ => h.boundsKeyword) []
  rw [List.append_nil, ← hrest] at hout
  rw [← hrest]
  exact hout

namespace RuleText

/-- No section stands outside the blocks of paths. -/
theorem scanFrom_section_paths {scopes : List PathScope} (h : ∀ s ∈ scopes, s.Writable)
    (pos : Nat) :
    scanFrom .section pos 0 true (Text.unlines (scopes.flatMap PathScope.lines)) = {} := by
  induction scopes generalizing pos with
  | nil => exact scanFrom_nil ..
  | cons s scopes ih =>
    have hs := h s List.mem_cons_self
    have hocc : Keyword.section.occurs true ([] ++ headText .path s.pattern) = false := by
      have hout : Keyword.section.occurs true ([] ++ headText .path s.pattern) =
          Keyword.section.occurs true (s.pattern ++ [' ']) := rfl
      rw [hout, Keyword.occurs_append_gap, hs.occurs_section]
    rw [List.flatMap_cons, Text.unlines_append, PathScope.lines,
      scanFrom_foreign (by simp) hs.blockText rfl hocc]
    exact ih (fun t ht => h t (List.mem_cons_of_mem _ ht)) _

/-! ## Kept lines -/

theorem clean_blockLines {indent : Text} (hi : ∀ c ∈ indent, c = ' ') (k : Keyword) {header : Text}
    (hh : Text.Plain header) {inner : List Text} (hin : ∀ l ∈ inner, Text.Clean l) {o : OptionSet}
    (ho : o.Writable) : ∀ l ∈ blockLines indent k header inner o.write, Text.Clean l := by
  have hname : Text.Clean k.name := by
    cases k <;> exact (plain_of_isNameChar (all_isNameChar rfl)).mono (by simp)
  have hheader : Text.Clean header := hh.mono (by simp)
  intro l hl
  rw [blockLines, List.mem_append, List.mem_cons, List.mem_singleton] at hl
  rcases hl with (rfl | hl) | rfl
  · have hline : Text.Clean ((k.name ++ ':' :: ' ' :: (header ++ ' ' :: '\x7b' :: []))) :=
      hname.append_cons (((hheader.append_cons ((Text.free_nil _).cons (by decide))
        (by decide)).cons (by decide))) (by decide)
    simpa using Text.Free.indent hi (by decide) hline
  · exact hin l hl
  · have hwrite : Text.Clean o.write := ho.plain_write.mono (by simp)
    exact .indent hi (by decide) (hwrite.cons (by decide))

end RuleText

theorem Rule.Writable.clean {r : Rule} (h : r.Writable) : ∀ l ∈ r.lines, Text.Clean l := by
  have hfields {t : Template} (ht : t.Writable) {indent : Text} (hi : ∀ c ∈ indent, c = ' ') :
      ∀ l ∈ t.fieldLines indent, Text.Clean l := fun l hl => (ht.line hi hl).1.mono (by simp)
  refine clean_blockLines (by simp) .section ?_ (fun l hl => ?_) h.template.section_options
  · exact (plain_of_isNameChar h.name_chars).append_cons h.template.selector_plain (by decide)
  · rcases List.mem_append.mp hl with hl | hl
    · exact hfields h.template (by simp) l hl
    · cases hi : r.items with
      | none => rw [hi] at hl; cases hl
      | some t =>
        rw [hi] at hl
        have ht := (h.items t hi).2
        exact clean_blockLines (by simp) .items ht.selector_plain (hfields ht (by simp))
          ht.section_options l hl

theorem RuleText.inPathHeader_of_no_brace {t : Text} (h : ∀ c ∈ t, c ≠ '\x7b' ∧ c ≠ '\x7d') :
    inPathHeader true ("path: ".toList ++ t) = true := by
  have hafter : Keyword.path.after? ("path: ".toList ++ t) = some (' ' :: t) :=
    Keyword.after?_name .path (' ' :: t)
  have hstart : startsPathHeader ("path: ".toList ++ t) = true := by
    rw [startsPathHeader, hafter]
    simpa using h
  have hcons : "path: ".toList ++ t = 'p' :: ("ath: ".toList ++ t) := rfl
  rw [hcons] at hstart ⊢
  rw [inPathHeader, hstart]
  rfl

/-- Whatever its pattern, the header of a path stays as it is. -/
theorem PathScope.Writable.kept_header {s : PathScope} (h : s.Writable) :
    Kept ("path: ".toList ++ (s.pattern ++ [' ', '\x7b'])) where
  no_break := by
    have hn : '\n' ∉ s.pattern := fun hc => absurd (h.pattern_chars _ hc).1 (by decide)
    have hr : '\r' ∉ s.pattern := fun hc => absurd (h.pattern_chars _ hc).1 (by decide)
    simp [hn, hr]
  no_reference := by
    have hsplit : "path: ".toList ++ (s.pattern ++ [' ', '\x7b']) =
        "path:".toList ++ ' ' :: (s.pattern ++ ' ' :: ['\x7b']) := by simp
    rw [hsplit, Text.hasPair_append_cons (by decide) (by decide),
      Text.hasPair_append_cons (by decide) (by decide)]
    have hlast : ¬ Text.HasPair '&' '#' ['\x7b'] := by decide
    exact not_or.mpr ⟨by decide, not_or.mpr ⟨h.pattern_reference, hlast⟩⟩
  comment := by
    intro u v huv
    -- the slash stands behind the colon, so what precedes it begins the header
    obtain ⟨w, rfl, hw⟩ := Text.exists_append_of_not_mem huv (by decide)
    refine inPathHeader_of_no_brace fun c hc => ?_
    rcases List.append_eq_append_iff.mp hw with ⟨x, -, hx⟩ | ⟨x, hx, -⟩
    · exact absurd (hx ▸ List.mem_append_right x List.mem_cons_self : '/' ∈ [' ', '\x7b'])
        (by decide)
    · have hp : c ∈ s.pattern := hx ▸ List.mem_append_left x hc
      exact ⟨(h.pattern_chars c hp).2.1, (h.pattern_chars c hp).2.2.1⟩

namespace RuleText

theorem kept_write {pageType : Text} {scopes : List PathScope} (h : Writable pageType scopes) :
    ∀ l ∈ ("page-type: ".toList ++ pageType) :: scopes.flatMap PathScope.lines, Kept l := by
  intro l hl
  rcases List.mem_cons.mp hl with rfl | hl
  · exact kept_of_clean ((plain_pageLine h.page_type_chars).mono (by simp))
  · obtain ⟨s, hs, hl⟩ := List.mem_flatMap.mp hl
    have hw := h.writable s hs
    rw [PathScope.lines, blockLines, List.mem_append, List.mem_cons, List.mem_singleton] at hl
    rcases hl with (rfl | hl) | rfl
    · exact hw.kept_header
    · obtain ⟨r, hr, hl⟩ := List.mem_flatMap.mp hl
      exact kept_of_clean ((hw.rules r hr).clean l hl)
    · exact kept_of_clean ((Text.free_nil _).cons (by decide))

/-! ## Compiling -/

/-- What is written from scopes is compiled to them. -/
theorem scopes_write {pageType : Text} {scopes : List PathScope} (h : Writable pageType scopes) :
    RuleText.scopes ⟨0, write pageType scopes⟩ =
      pure (if scopes = [] then [.catchAll []] else scopes) := by
  have hline := scanFrom_pageLine h.page_type_chars
  obtain ⟨blocks, hscan, hblocks⟩ := scanFrom_blocks .path [] (fun s : PathScope => s.pattern)
    (fun s => s.rules.flatMap Rule.lines) (fun _ => []) (by simp)
    (fun s hs => (h.writable s hs).blockText)
    (0 + ("page-type: ".toList ++ pageType).length + 1)
  have hpaths : scanBlocks .path ⟨0, write pageType scopes⟩ = { blocks } := by
    rw [scanBlocks, write, Text.unlines_cons, hline]
    exact hscan
  have hstray : scanBlocks .section ⟨0, write pageType scopes⟩ = {} := by
    rw [scanBlocks, write, Text.unlines_cons, hline, scanFrom_section_paths h.writable]
  have hadd := foldlM_addScope_written [] h.writable h.patterns_nodup hblocks
  rw [RuleText.scopes, hpaths]
  dsimp only
  rw [reportMalformed_nil, pure_bind]
  cases hblocks with
  | nil =>
    rw [List.isEmpty_nil, if_pos rfl, sections, hstray, reportMalformed_nil, pure_bind,
      Noted.collect, pure_bind, if_pos rfl]
  | cons hb hbs =>
    rw [List.isEmpty_cons, if_neg Bool.false_ne_true, hstray, List.map_nil, Noted.ofNotes_nil,
      pure_bind, hadd, if_neg (by simp)]
    rfl

theorem normalize_write {pageType : Text} {scopes : List PathScope}
    (h : Writable pageType scopes) :
    normalize (write pageType scopes) = ⟨write pageType scopes, none⟩ :=
  normalize_unlines (kept_write h)

/-- Compiling undoes writing. Without scopes nothing is written that could be read back as a path,
so the implicit scope stands for every path. -/
theorem compile_write {pageType : Text} {scopes : List PathScope} (h : Writable pageType scopes) :
    compile (write pageType scopes) =
      { pageType := some pageType
        scopes := if scopes = [] then [.catchAll []] else scopes
        diagnostics := [] } := by
  have htype : pageType? (write pageType scopes) = some pageType := by
    rw [write, Text.unlines_cons, pageType?_write h.page_type_chars h.page_type_ne_nil]
  rw [compile, normalize_write h, compileNormal, htype, scopes_write h]
  rfl

/-- A pattern that looks like a comment, a section named as a keyword, and values that need
quotes. -/
def shopScope : PathScope where
  glob := ⟨"/shop/*".toList, ("/shop/".toList.map .literal) ++ [.run], by cbv⟩
  rules :=
    [{ name := "section".toList
       selector := "ul.items > li:hover".toList
       fieldSelectors := .ofList [(.text, "h1[title]".toList), (.link, "a /path:x".toList)]
       fieldOptions := .ofList
         [(.text, .ofList
            [(OptionKey.limit, .integer (-3)), ("note".toList, .text " \"a:b\" ".toList)]),
          (.img, .empty),
          (.link, .ofList
            [(OptionKey.transform, .list ["trim".toList, "lower".toList]),
             ("items".toList, .flag true)])]
       sectionOptions := .ofList [(OptionKey.index, .integer 2)]
       items := some
         { name := itemsName
           selector := ".item".toList
           fieldSelectors := .ofList [(.text, "b".toList)]
           fieldOptions := .ofList [(.text, .empty)]
           sectionOptions := .ofList [(OptionKey.limit, .flag true)] } }]

theorem compile_write_shopScope :
    Writable "shop-1".toList [shopScope] ∧
      compile (write "shop-1".toList [shopScope]) =
        { pageType := some "shop-1".toList, scopes := [shopScope], diagnostics := [] } := by
  have h : Writable "shop-1".toList [shopScope] := by decide +kernel
  refine ⟨h, ?_⟩
  rw [compile_write h, if_neg (List.cons_ne_nil _ _)]

/-- Compiling gives the scopes back only where there are some. -/
theorem not_forall_compile_write :
    ¬ ∀ pageType scopes, Writable pageType scopes →
      compile (write pageType scopes) =
        { pageType := some pageType, scopes := scopes, diagnostics := [] } := by
  intro hall
  have h : Writable ['t'] [] := by decide +kernel
  have hscopes : (compile (write ['t'] [])).scopes = [.catchAll []] := by
    rw [compile, normalize_write h, compileNormal, scopes_write h]
    rfl
  rw [hall ['t'] [] h] at hscopes
  cases hscopes

end RuleText
end PageRules
