import Mathlib
import PageRules.Proofs.RuleText.Compose

/-!
# Sections that are never closed

The scan passes over the header of a section whose brace is never closed, and goes on behind it as
if nothing had been open. So such a section costs nothing but itself (`compile_cutSection`).
-/

namespace PageRules.RuleText

variable {k : Keyword} {s t : Text}

/-! ## Texts without a keyword -/

/-- A scan finds nothing where its keyword does not occur. -/
theorem scanFrom_of_occurs_eq_false {b : Bool} (h : k.occurs b t = false) (pos depth : Nat) :
    scanFrom k pos depth b t = {} := by
  induction t generalizing pos depth b with
  | nil => exact scanFrom_nil ..
  | cons c t ih =>
    rw [Keyword.occurs, Bool.or_eq_false_iff] at h
    by_cases ho : c = '\x7b'
    · subst ho
      rw [scanFrom_open]
      exact ih h.2 _ _
    by_cases hc : c = '\x7d'
    · subst hc
      rw [scanFrom_close]
      exact ih h.2 _ _
    have hr : Opening.readIf (depth == 0 && b) k (c :: t) = .none := by
      refine readIf_eq_none fun hb => ?_
      rw [(Bool.and_eq_true_iff.mp hb).2, Bool.true_and] at h
      simpa using h.1
    rw [scanFrom_cons _ _ ho hc hr]
    exact ih h.2 _ _

/-- A text without the keyword of paths has the notes of its sections only. -/
theorem scopes_of_occurs_eq_false {f : Fragment} (h : Keyword.path.occurs true f.chars = false) :
    (scanBlocks .path f).blocks = [] ∧ (scopes f).notes = (sections f).notes := by
  have hscan : scanBlocks .path f = {} := scanFrom_of_occurs_eq_false h ..
  have hblocks : (scanBlocks .path f).blocks = [] := by rw [hscan]
  refine ⟨hblocks, ?_⟩
  rw [notes_scopes_of_no_path hblocks, hscan]
  rfl

theorem pathBlocks_of_occurs_eq_false (h : Keyword.path.occurs true (normalize t).text = false) :
    pathBlocks t = [] := (scopes_of_occurs_eq_false (f := normalFragment t) h).1

/-! ## The header of a section -/

/-- The line of a section up to its brace. -/
def sectionLine (name selector : Text) : Text :=
  headText .section (name ++ ' ' :: selector) ++ ['\x7b']

section

variable {name selector : Text} (hn : Text.Plain name) (hs : Text.Plain selector)
include hn hs

theorem plain_header : Text.Plain (name ++ ' ' :: selector) := hn.append_cons hs (by decide)

theorem clean_sectionLine : Text.Clean (sectionLine name selector) := by
  have hheader : Text.Clean (name ++ ' ' :: selector) := (plain_header hn hs).mono (by simp)
  have hname : Text.Clean Keyword.section.name := by decide
  exact (hname.append_cons ((hheader.append_cons (Text.free_nil _) (by decide)).cons (by decide))
    (by decide)).append_cons (Text.free_nil _) (by decide)

/-- The brace of a section is not closed by a text that closes its own. -/
theorem read_sectionLine (ht : braceDepth? 0 t = some 0) :
    Opening.read .section (sectionLine name selector ++ '\n' :: t) =
      .unmatchedBrace (sectionLine name selector).length ('\n' :: t) := by
  have hplain := plain_header hn hs
  have hopen : '\x7b' ∉ ' ' :: (name ++ ' ' :: selector) ++ [' '] := by
    simpa using hplain.not_mem '\x7b' (by simp)
  have hclose : '\x7d' ∉ ' ' :: (name ++ ' ' :: selector) ++ [' '] := by
    simpa using hplain.not_mem '\x7d' (by simp)
  have hbreak : '\n' ∉ ' ' :: (name ++ ' ' :: selector) ++ [' '] := by
    simpa using hplain.not_mem '\n' (by simp)
  have hbody : body? 0 ('\n' :: t) = none :=
    body?_eq_none_iff.mpr ⟨_, (braceDepth?_cons (by decide) (by decide) ..).trans ht⟩
  have htext : sectionLine name selector ++ '\n' :: t = Keyword.section.name ++ ':' ::
      ((' ' :: (name ++ ' ' :: selector) ++ [' ']) ++ '\x7b' :: '\n' :: t) := by
    simp [sectionLine, headText]
  rw [htext, Opening.read, Keyword.after?_name]
  dsimp only
  rw [header?_append hopen hclose hbreak]
  dsimp only
  rw [hbody]
  dsimp only
  congr 1
  simp only [sectionLine, headText, List.length_append, List.length_cons, List.length_nil]
  omega

/-- A scan for sections goes on behind the brace. -/
theorem scanBlocks_sectionLine (ht : braceDepth? 0 t = some 0) :
    scanBlocks .section ⟨0, sectionLine name selector ++ '\n' :: t⟩ =
      ((scanBlocks .section ⟨0, t⟩).shift ((sectionLine name selector).length + 1)).consMalformed
        ⟨0, .unmatchedBrace⟩ := by
  have hread := read_sectionLine hn hs ht
  have hcons : sectionLine name selector ++ '\n' :: t =
      's' :: ((sectionLine name selector).tail ++ '\n' :: t) := rfl
  rw [scanBlocks]
  dsimp only
  rw [hcons] at hread ⊢
  rw [scanFrom_read (by decide) (by decide), hread, Opening.goOn, scanFrom_newline, Nat.add_assoc,
    scanFrom_shift]
  rfl

/-- The section that is never closed is noted, and nothing else changes. -/
theorem sections_sectionLine (ht : braceDepth? 0 t = some 0) :
    sections ⟨0, sectionLine name selector ++ '\n' :: t⟩ =
      ⟨(sections ⟨0, t⟩).value, ⟨0, .malformed .section .unmatchedBrace⟩ ::
        ((sections ⟨0, t⟩).shift ((sectionLine name selector).length + 1)).notes⟩ := by
  rw [← Noted.value_shift (n := (sectionLine name selector).length + 1), ← sections_shift, sections,
    scanBlocks_sectionLine hn hs ht, ← scanBlocks_shift]
  rfl

theorem lineCount_sectionLine : lineCount (sectionLine name selector) = 1 := by
  have hbreak : '\n' ∉ sectionLine name selector :=
    (clean_sectionLine hn hs).not_mem _ List.mem_cons_self
  rw [lineCount, List.count_eq_zero.mpr hbreak]

theorem normalize_sectionLine (ht : SelfContained t) :
    normalize (sectionLine name selector ++ '\n' :: t) =
      ⟨sectionLine name selector ++ '\n' :: (normalize t).text, none⟩ := by
  have hfree : Text.Free ['\r'] (sectionLine name selector) :=
    (clean_sectionLine hn hs).mono (by simp)
  have hline := normalize_of_free hfree
  rw [normalize_append_line (lineFeeds_of_free hfree) (by rw [hline]), hline, Normal.prepend_eq,
    Normal.later, ht.comments_closed, List.append_assoc]
  rfl

/-- In front of a text the section costs one diagnostic. -/
theorem compile_sectionLine (ht : SelfContained t)
    (hpath : Keyword.path.occurs true
      (normalize (sectionLine name selector ++ '\n' :: t)).text = false) :
    (compile (sectionLine name selector ++ '\n' :: t)).rules = (compile t).rules ∧
      (compile (sectionLine name selector ++ '\n' :: t)).diagnostics =
        ⟨1, .malformed .section .unmatchedBrace⟩ :: (compile t).diagnostics.map (.shift 1) := by
  have hnorm := normalize_sectionLine hn hs ht
  have hfragment : normalFragment (sectionLine name selector ++ '\n' :: t) =
      ⟨0, sectionLine name selector ++ '\n' :: (normalize t).text⟩ := by
    rw [normalFragment, hnorm]
  have hsections := sections_sectionLine hn hs ht.braces_closed
  have htail : Keyword.path.occurs true (normalize t).text = false := by
    rw [hnorm, Keyword.occurs_append_barrier (Keyword.barrier_of_mem (by decide)),
      Bool.or_eq_false_iff] at hpath
    exact hpath.2
  obtain ⟨hblocks, hnotes⟩ :=
    scopes_of_occurs_eq_false (f := normalFragment (sectionLine name selector ++ '\n' :: t)) hpath
  obtain ⟨hblocks', hnotes'⟩ := scopes_of_occurs_eq_false (f := normalFragment t) htail
  rw [hfragment, hsections] at hnotes
  constructor
  · rw [rules_of_no_path hblocks, rules_of_no_path hblocks', hfragment, hsections]
    rfl
  · have hmap (note : Note) :
        (note.shift ((sectionLine name selector).length + 1)).inText
            (sectionLine name selector ++ '\n' :: (normalize t).text) =
          (note.inText (normalize t).text).shift 1 := by
      rw [inText_shift, lineCount_sectionLine hn hs]
    rw [diagnostics_of_closed (by rw [hnorm]), hfragment, hnotes, hnorm,
      diagnostics_of_closed ht.comments_closed, hnotes', List.map_cons, Noted.shift, List.map_map,
      List.map_map]
    exact congrArg (_ :: ·) (List.map_congr_left fun note _ => hmap note)

end

/-! ## Sections between texts -/

/-- A section between two texts, without the brace that would close it. -/
def cutSection (s name selector t : Text) : Text :=
  s ++ '\n' :: (sectionLine name selector ++ '\n' :: t)

/-- A section that is never closed, between texts that close what they open, costs only itself. -/
theorem compile_cutSection {s t name selector : Text} (hs : SelfContained s)
    (hclosed : '[' ∉ Text.afterLast (· == ']') (normalize s).text) (ht : SelfContained t)
    (hname : Text.Plain name) (hselector : Text.Plain selector)
    (hpath : Keyword.path.occurs true (normalize (cutSection s name selector t)).text = false) :
    (compile (cutSection s name selector t)).rules = (compile s).rules ++ (compile t).rules ∧
      (compile (cutSection s name selector t)).diagnostics.Perm
        ((compile s).diagnostics ++ ⟨lineCount s + 1, .malformed .section .unmatchedBrace⟩ ::
          (compile t).diagnostics.map (.shift (lineCount s + 1))) := by
  have htext := (hs.normalize_append_line (sectionLine name selector ++ '\n' :: t)).1
  rw [cutSection, htext, Keyword.occurs_append_barrier (Keyword.barrier_of_mem (by decide)),
    Bool.or_eq_false_iff] at hpath
  -- The first text composes with the rest, and in front of the rest stands only the open section.
  obtain ⟨hfirst, hsecond⟩ := hpath
  obtain ⟨hrules, hdiagnostics⟩ := compile_sectionLine hname hselector ht hsecond
  have hnext : '[' ∉ ((normalize (sectionLine name selector ++ '\n' :: t)).text.dropWhile
      Text.isSpace).head? := by
    rw [normalize_sectionLine hname hselector ht]
    rintro ⟨⟩
  obtain ⟨hscopes, hperm⟩ := append_line_of_no_path hs hclosed hnext
    (pathBlocks_of_occurs_eq_false hfirst) (pathBlocks_of_occurs_eq_false hsecond)
  constructor
  · rw [cutSection, Compilation.rules, hscopes, ← hrules]
    exact List.append_nil _
  · have hshift : Diagnostic.shift (lineCount s) ∘ Diagnostic.shift 1 =
        Diagnostic.shift (lineCount s + 1) := by
      funext d
      simp only [Function.comp_apply, Diagnostic.shift, Nat.add_assoc, Nat.add_comm 1]
    rw [hdiagnostics, List.map_cons, List.map_map, hshift, Diagnostic.shift, Nat.add_comm 1]
      at hperm
    exact hperm

/-- A text with a section inside braces, which belongs to the section around it. -/
def nestedText : Text := "section: c .c \x7b\n section: d .d \x7b \x7d\n\x7d".toList

theorem compile_cutSection_nestedText :
    (SelfContained listText ∧ SelfContained nestedText ∧
        Keyword.path.occurs true
          (normalize (cutSection listText ['b'] "b > i".toList nestedText)).text = false) ∧
      (compile (cutSection listText ['b'] "b > i".toList nestedText)).rules.map (·.name) =
        [['a'], ['c']] ∧
      (compile (cutSection listText ['b'] "b > i".toList nestedText)).diagnostics.Perm
        [⟨5, .malformed .section .unmatchedBrace⟩,
          ⟨7, .unknownLine "section: d .d \x7b \x7d".toList⟩] := by
  have hs : SelfContained listText := by decide +kernel
  have ht : SelfContained nestedText := by decide +kernel
  have hpath : Keyword.path.occurs true
      (normalize (cutSection listText ['b'] "b > i".toList nestedText)).text = false := by
    decide +kernel
  obtain ⟨hrules, hdiagnostics⟩ := compile_cutSection hs (by decide +kernel) ht
    (by decide +kernel) (by decide +kernel) hpath
  refine ⟨⟨hs, ht, hpath⟩, ?_, ?_⟩
  · rw [hrules]
    decide +kernel
  · refine hdiagnostics.trans (List.Perm.of_eq ?_)
    decide +kernel

/-- No keyword of paths with its colon stands anywhere in the text. -/
def NoPath (t : Text) : Prop := ∀ u ∈ t.tails, Keyword.path.after? u = none

instance (t : Text) : Decidable (NoPath t) :=
  List.decidableBAll (fun u => Keyword.path.after? u = none) t.tails

/-- A blanked comment can leave a keyword of paths where the text as it is written has none. -/
theorem not_forall_compile_cutSection :
    ¬ ∀ s t name selector : Text, SelfContained s →
      '[' ∉ Text.afterLast (· == ']') (normalize s).text → SelfContained t →
      Text.Plain name → Text.Plain selector → NoPath (cutSection s name selector t) →
      (compile (cutSection s name selector t)).rules = (compile s).rules ++ (compile t).rules := by
  intro hall
  have h := hall "path/**/: /x \x7b\nsection: a .a \x7b \x7d\n\x7d".toList
    "section: d .d \x7b \x7d".toList ['b'] ".b".toList (by decide +kernel) (by decide +kernel)
    (by decide +kernel) (by decide +kernel) (by decide +kernel) (by decide +kernel)
  revert h
  decide +kernel

end PageRules.RuleText
