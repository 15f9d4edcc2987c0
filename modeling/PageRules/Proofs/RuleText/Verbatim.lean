import Mathlib
import PageRules.Proofs.RuleText.Recovery
import PageRules.Proofs.RuleText.RoundTrip

/-!
# Selectors are read as they are written

A text of one section with one field gives the rule back, selector and all. The only words that a
header cannot hold are those of a path: the scan for paths does not tell the header of a section
from other text, so there a keyword of paths makes the body of the section that of a path block
(`compile_loneSection_iff`).
-/

namespace PageRules.RuleText

variable {k : Keyword} {t : Text}

/-! ## Headers that hold a keyword -/

/-- A keyword on a line that opens a brace opens a block where the brace is closed. -/
theorem blocks_ne_nil_of_occurs {b : Bool} {inner : Text} (ho : '\x7b' ∉ t) (hc : '\x7d' ∉ t)
    (hn : '\n' ∉ t) (hk : k.occurs b t = true) (hi : Balanced inner) (pos : Nat) (s : Text) :
    (scanFrom k pos 0 b (t ++ '\x7b' :: (inner ++ '\x7d' :: s))).blocks ≠ [] := by
  induction t generalizing b pos with
  | nil => cases hk
  | cons c t ih =>
    have hco : c ≠ '\x7b' := (List.ne_of_not_mem_cons ho).symm
    have hcc : c ≠ '\x7d' := (List.ne_of_not_mem_cons hc).symm
    have hafter := Keyword.after?_append_barrier k.barrier_open (c :: t) (inner ++ '\x7d' :: s)
    rw [List.cons_append] at hafter ⊢
    rw [Keyword.occurs, Bool.or_eq_true, Bool.and_eq_true] at hk
    by_cases hfirst : b = true ∧ (k.after? (c :: t)).isSome = true
    · obtain ⟨rfl, hsome⟩ := hfirst
      obtain ⟨header, hheader⟩ := Option.isSome_iff_exists.mp hsome
      obtain ⟨word, -, hword⟩ := Keyword.after?_eq_some hheader
      have hsub {d : Char} (hd : d ∉ c :: t) : d ∉ header := fun hm =>
        hd (hword ▸ List.mem_append_right word hm)
      rw [hheader, Option.map_some] at hafter
      rw [scanFrom_read hco hcc, Opening.read, hafter]
      dsimp only
      rw [header?_append (hsub ho) (hsub hc) (hsub hn)]
      dsimp only
      rw [body?_balanced hi]
      exact List.cons_ne_nil _ _
    · have hread : Opening.readIf (0 == 0 && b) k
          (c :: (t ++ '\x7b' :: (inner ++ '\x7d' :: s))) = .none := by
        refine readIf_eq_none fun hb => ?_
        rw [hafter, Option.map_eq_none_iff]
        simpa [show b = true from hb] using hfirst
      rw [scanFrom_cons _ _ hco hcc hread]
      exact ih (List.not_mem_of_not_mem_cons ho) (List.not_mem_of_not_mem_cons hc)
        (List.not_mem_of_not_mem_cons hn) (hk.resolve_left hfirst) _

/-- The word of sections is none of paths, so only what the header names can hold one. -/
theorem occurs_headText (header : Text) :
    Keyword.path.occurs true (headText .section header) = Keyword.path.occurs true header := by
  have hout : Keyword.path.occurs true (headText .section header) =
      Keyword.path.occurs true (header ++ [' ']) := rfl
  rw [hout, Keyword.occurs_append_gap]

/-! ## Page types -/

/-- A line declares a page type only where it begins with the first letter of the word. -/
theorem pageTypeOf?_eq_none {line : Text} {c : Char} (h : (Text.trim line).head? = some c)
    (hc : c.toLower ≠ 'p') : pageTypeOf? line = none := by
  obtain ⟨rest, hrest⟩ := List.head?_eq_some_iff.mp h
  have hword : Keyword.afterWord? "page-type".toList (c :: rest) = none := by
    rw [show "page-type".toList = 'p' :: "age-type".toList from rfl, Keyword.afterWord?,
      if_neg (by simpa using hc.symm)]
  rw [pageTypeOf?, hrest, hword]
  rfl

/-! ## One section -/

/-- A section with one field, and nothing around it. -/
def loneSection (name selector field : Text) : Text :=
  sectionLine name selector ++ '\n' :: ("text: ".toList ++ field ++ '\n' :: ['\x7d'])

/-- The rule that such a section writes out. -/
def loneRule (name selector field : Text) : Rule where
  name := name
  selector := selector
  fieldSelectors := ⟨[(.text, field)], by simp⟩
  fieldOptions := ⟨[(.text, .empty)], by simp⟩

/-- What holds of a name and of selectors that can be written on a line each. -/
@[mk_iff] structure LoneParts (name selector field : Text) : Prop where
  name_ne_nil : name ≠ []
  name_chars : name.all isNameChar = true
  selector_ne_nil : selector ≠ []
  selector_trimmed : Text.Trimmed selector
  selector_plain : Text.Plain selector
  field_ne_nil : field ≠ []
  field_ne_null : field ≠ nullSelector
  field_trimmed : Text.Trimmed field
  field_free : Text.Free ['\n', '\r', '\x7b', '\x7d', '[', ']', ':'] field

instance (name selector field : Text) : Decidable (LoneParts name selector field) :=
  decidable_of_iff' _ (loneParts_iff name selector field)

theorem bracketsTouch_of_not_mem (h : '[' ∉ t) (touched : Bool) :
    bracketsTouch touched t = true := by
  induction t generalizing touched with
  | nil => rfl
  | cons c t ih =>
    have hc : (c != '[') = true := bne_iff_ne.mpr (List.ne_of_not_mem_cons h).symm
    rw [bracketsTouch, hc, ih (List.not_mem_of_not_mem_cons h)]
    rfl

namespace LoneParts

variable {name selector field : Text} (h : LoneParts name selector field)
include h

theorem name_plain : Text.Plain name := plain_of_isNameChar h.name_chars

theorem writable : (loneRule name selector field).Writable where
  name_ne_nil := h.name_ne_nil
  name_chars := h.name_chars
  template := {
    selector_plain := h.selector_plain
    selector_ne_nil := h.selector_ne_nil
    selector_trimmed := h.selector_trimmed
    fields_order := List.Sublist.refl _
    fields := by
      intro e he
      cases List.mem_singleton.mp he
      have hselector {P : Text → Prop} (hp : P field) :
          ∀ s ∈ (loneRule name selector field).fieldSelectors.get? .text, P s := by
        rintro s ⟨⟩
        exact hp
      exact {
        selector_plain := hselector
          ⟨h.field_free.mono (by simp), h.field_ne_nil, h.field_trimmed, h.field_ne_null⟩
        selector_brackets := hselector
          (bracketsTouch_of_not_mem (h.field_free.not_mem _ (by simp)) _)
        selector_items := hselector
          (Keyword.occurs_of_not_colon_mem (h.field_free.not_mem _ (by simp)) _)
        options := by rintro e ⟨⟩
        options_items := by rintro e ⟨⟩ }
    section_options := by rintro e ⟨⟩ }
  items := by rintro t ⟨⟩

omit h in
/-- The text is a header, the line of the field, and the closing brace. -/
theorem text_eq : loneSection name selector field =
    headText .section (name ++ ' ' :: selector) ++ '\x7b' ::
      ('\n' :: Text.unlines ((loneRule name selector field).fieldLines []) ++ '\x7d' :: []) := by
  have hline : (loneRule name selector field).fieldLines [] = ["text: ".toList ++ field] := by
    simp [Template.fieldLines, loneRule, writeField, WriteOnce.get?, OptionSet.write, Field.name]
  rw [hline]
  simp [loneSection, sectionLine, Text.unlines]

theorem balanced_body :
    Balanced ('\n' :: Text.unlines ((loneRule name selector field).fieldLines [])) :=
  .char (by decide) (by decide) (balanced_fieldLines h.writable.template (by simp))

/-- No brace and no line break stands in the header. -/
theorem head_chars : '\x7b' ∉ headText .section (name ++ ' ' :: selector) ∧
    '\x7d' ∉ headText .section (name ++ ' ' :: selector) ∧
    '\n' ∉ headText .section (name ++ ' ' :: selector) := by
  have hplain := plain_header h.name_plain h.selector_plain
  have hmem {c : Char} (hc : c ∈ ['\n', '\r', '\x7b', '\x7d'])
      (hk : c ∉ Keyword.section.name ∧ c ≠ ':' ∧ c ≠ ' ') :
      c ∉ headText .section (name ++ ' ' :: selector) := by
    have hh := hplain.not_mem c hc
    simp only [headText, List.mem_append, List.mem_cons, List.not_mem_nil, or_false] at hh ⊢
    tauto
  exact ⟨hmem (by simp) (by decide), hmem (by simp) (by decide), hmem (by simp) (by decide)⟩

theorem normalize_eq :
    normalize (loneSection name selector field) = ⟨loneSection name selector field, none⟩ := by
  have hhead : Text.Free ['\r'] (sectionLine name selector) :=
    (clean_sectionLine h.name_plain h.selector_plain).mono (by simp)
  have hlabel : Text.Free ['\r'] ("text:".toList) := by decide
  have hclose : Text.Free ['\r'] ['\x7d'] := by decide
  have hfield : Text.Free ['\r'] field := h.field_free.mono (by simp)
  refine normalize_of_free (hhead.append_cons ?_ (by decide))
  have hline : "text: ".toList ++ field ++ '\n' :: ['\x7d'] =
      "text:".toList ++ ' ' :: (field ++ '\n' :: ['\x7d']) := by simp
  rw [hline]
  exact hlabel.append_cons (hfield.append_cons hclose (by decide)) (by decide)

theorem pageType?_eq : pageType? (loneSection name selector field) = none := by
  have hfield : '\n' ∉ "text: ".toList ++ field := by
    simpa using h.field_free.not_mem '\n' (by simp)
  have hhead : '\n' ∉ sectionLine name selector :=
    (clean_sectionLine h.name_plain h.selector_plain).not_mem _ (by simp)
  have hlines : Text.lines (loneSection name selector field) =
      [sectionLine name selector, "text: ".toList ++ field, ['\x7d']] := by
    rw [Text.lines, loneSection, Text.splitOn_append (Text.beq_eq_false_of_mem hhead) rfl,
      Text.splitOn_append (Text.beq_eq_false_of_mem hfield) rfl]
    rfl
  rw [pageType?, hlines, List.findSome?_eq_none_iff]
  have hfirst {c : Char} (hc : Text.isBlank c = false) (t : Text) :
      (Text.trim (c :: t)).head? = some c := Text.head?_trim (s := []) (by simp) hc t
  simp only [List.mem_cons, List.not_mem_nil, or_false, forall_eq_or_imp, forall_eq]
  exact ⟨pageTypeOf?_eq_none (hfirst (c := 's') rfl _) (by decide),
    pageTypeOf?_eq_none (hfirst (c := 't') rfl _) (by decide),
    pageTypeOf?_eq_none (hfirst (c := '\x7d') rfl _) (by decide)⟩

/-- The body gives the field back. -/
theorem sectionBody_eq {b : Fragment} (hb : b.chars =
    '\n' :: Text.unlines ((loneRule name selector field).fieldLines [])) :
    sectionBody (loneRule name selector field).head b = pure (loneRule name selector field) := by
  have ht := h.writable.template
  have hnil : ∀ c ∈ ([] : Text), c = ' ' := by simp
  rw [← List.append_nil ('\n' :: _)] at hb
  have hscan : scanBlocks .items b = { blocks := [] } := by
    rw [scanBlocks, hb, scanFrom_fieldLines ht hnil, scanFrom_nil]
  have hchars : (linesExcluding b []).map (·.chars) =
      [] :: (loneRule name selector field).fieldLines [] ++ [[]] := by
    rw [chars_linesExcluding_nil (by simp [hb]), hb, lines_fieldLines ht hnil (by simp)]
  rw [sectionBody_of_scan hscan, firstItems, pure_bind, List.map_nil,
    Template.addLines_fieldLines ht hnil [[]] (by simp) hchars]
  rfl

/-- A block of this header and this body gives the rule back. -/
theorem section?_eq {b : Block}
    (hheader : b.header.chars = ' ' :: (name ++ ' ' :: selector) ++ [' '])
    (hbody : b.body.chars = '\n' :: Text.unlines ((loneRule name selector field).fieldLines []))
    (htrailer : b.trailer.chars = []) : section? b =
      pure (some (loneRule name selector field)) := by
  have htrimmed : Text.Trimmed (name ++ ' ' :: selector) := by
    simpa using Text.trimmed_append (trimmed_of_isNameChar h.name_chars) h.selector_trimmed
      h.name_ne_nil h.selector_ne_nil [' ']
  have hname : ¬ (name = [] ∨ (!name.all isNameChar) = true) := by
    simp [h.name_ne_nil, h.name_chars]
  have hoptions : trailerOptions b = pure .empty :=
    trailerOptions_eq (o := .empty) (by rintro e ⟨⟩) htrailer
  have hhead : Template.addSectionOptions { name, selector } .empty =
      (loneRule name selector field).head := rfl
  rw [section?, text_header (by simp) htrimmed hheader,
    sectionHead_eq h.name_chars h.selector_trimmed]
  dsimp only
  rw [if_neg hname, if_neg h.selector_ne_nil, hoptions, pure_bind, hhead, h.sectionBody_eq hbody]
  rfl

/-- The scan for sections finds one block, and the block gives the rule back. -/
theorem exists_section : ∃ b, scanBlocks .section ⟨0, loneSection name selector field⟩ =
    { blocks := [b] } ∧ section? b = pure (some (loneRule name selector field)) := by
  have hplain := plain_header h.name_plain h.selector_plain
  have hmem {c : Char} (hc : c ∈ ['\n', '\r', '\x7b', '\x7d']) :
      c ∉ ' ' :: (name ++ ' ' :: selector) ++ [' '] := by
    have hh := hplain.not_mem c hc
    have hs : c ≠ ' ' := by rintro rfl; simp at hc
    simp only [List.mem_append, List.mem_cons, List.not_mem_nil, or_false] at hh ⊢
    tauto
  have hread : Opening.read .section (loneSection name selector field) =
      .block 8 (' ' :: (name ++ ' ' :: selector) ++ [' '])
        ('\n' :: Text.unlines ((loneRule name selector field).fieldLines [])) [] [] := by
    rw [text_eq, headText, Opening.read, List.append_assoc, List.cons_append, Keyword.after?_name]
    dsimp only
    rw [header?_append (hmem (by simp)) (hmem (by simp)) (hmem (by simp))]
    dsimp only
    rw [body?_balanced h.balanced_body]
    dsimp only
    rw [optionRun_of_none rfl]
    congr 1
    rw [List.length_append, List.length_cons, show Keyword.section.name.length = 7 from rfl]
    omega
  have hcons : loneSection name selector field = 's' :: (loneSection name selector field).tail :=
    rfl
  refine ⟨_, ?_, h.section?_eq (b := .opened 0 8 _ _ []) rfl rfl rfl⟩
  rw [scanBlocks]
  dsimp only
  rw [hcons] at hread ⊢
  rw [scanFrom_read (by decide) (by decide), hread, Opening.goOn, scanFrom_nil]
  rfl

/-- The scan for paths looks at the header alone. -/
theorem scanBlocks_path (hp : Keyword.path.occurs true (name ++ ' ' :: selector) = false) :
    scanBlocks .path ⟨0, loneSection name selector field⟩ = {} := by
  obtain ⟨ho, hc, -⟩ := h.head_chars
  have hocc := (occurs_headText (name ++ ' ' :: selector)).trans hp
  rw [scanBlocks]
  dsimp only
  rw [text_eq, scanFrom_header ho hc hocc, scanFrom_balanced h.balanced_body, scanFrom_nil]

/-- A keyword of paths in the header gives the body of the section to a path block. -/
theorem blocks_path_ne_nil (hp : Keyword.path.occurs true (name ++ ' ' :: selector) = true) :
    pathBlocks (loneSection name selector field) ≠ [] := by
  obtain ⟨ho, hc, hn⟩ := h.head_chars
  have hocc := (occurs_headText (name ++ ' ' :: selector)).trans hp
  rw [pathBlocks, normalFragment, h.normalize_eq, scanBlocks]
  dsimp only
  rw [text_eq]
  exact blocks_ne_nil_of_occurs ho hc hn hocc h.balanced_body 0 []

end LoneParts

/-- One section compiles without a diagnostic, to the one rule that it writes out, where its header
holds no keyword of paths. There the body of the section is taken for that of a path block. -/
theorem compile_loneSection_iff {name selector field : Text} (h : LoneParts name selector field) :
    compile (loneSection name selector field) =
        ⟨none, [.catchAll [loneRule name selector field]], []⟩ ↔
      Keyword.path.occurs true (name ++ ' ' :: selector) = false := by
  obtain ⟨b, hscan, hrule⟩ := h.exists_section
  have hnormal : normalFragment (loneSection name selector field) =
      ⟨0, loneSection name selector field⟩ := by rw [normalFragment, h.normalize_eq]
  constructor
  · intro heq
    by_contra hp
    have hpaths := h.blocks_path_ne_nil (by simpa using hp)
    -- The section is then one outside every path block, and the note of it is a diagnostic.
    have hdiagnostics := diagnostics_of_closed (t := loneSection name selector field)
      (by rw [h.normalize_eq])
    rw [heq, notes_scopes_of_paths hpaths, hnormal, hscan] at hdiagnostics
    simp at hdiagnostics
  · intro hp
    have hpath := h.scanBlocks_path hp
    have hblocks : (scanBlocks .path ⟨0, loneSection name selector field⟩).blocks = [] := by
      rw [hpath]
    have hvalue : (sections ⟨0, loneSection name selector field⟩).value =
        [loneRule name selector field] := by
      rw [value_sections, hscan]
      simp [hrule, Noted.value_pure]
    have hnotes : (scopes ⟨0, loneSection name selector field⟩).notes = [] := by
      rw [notes_scopes_of_no_path hblocks, hpath, notes_sections, hscan]
      simp [hrule, reportMalformed, Noted.notes_pure]
    have hdiagnostics : (compile (loneSection name selector field)).diagnostics = [] := by
      rw [diagnostics_of_closed (by rw [h.normalize_eq]), hnormal, hnotes]
      rfl
    have hscopes : (compile (loneSection name selector field)).scopes =
        [.catchAll [loneRule name selector field]] := by
      rw [← hvalue, ← value_scopes_of_no_path hblocks, ← hnormal]
      rfl
    have htype : (compile (loneSection name selector field)).pageType = none := by
      rw [compile, h.normalize_eq]
      exact h.pageType?_eq
    rw [← hscopes, ← hdiagnostics, ← htype]

/-- Words of the language and colons stand in the selectors of rules that compile; `path` does not
where blanks and a colon follow. -/
theorem compile_loneSection_words :
    LoneParts "icon".toList "section:not(.items) svg.path > path".toList "title".toList ∧
      LoneParts "icon".toList "svg path:first-child".toList "title".toList ∧
      compile (loneSection "icon".toList "section:not(.items) svg.path > path".toList
          "title".toList) =
        ⟨none, [.catchAll [loneRule "icon".toList "section:not(.items) svg.path > path".toList
          "title".toList]], []⟩ ∧
      compile (loneSection "icon".toList "svg path:first-child".toList "title".toList) ≠
        ⟨none, [.catchAll [loneRule "icon".toList "svg path:first-child".toList
          "title".toList]], []⟩ := by
  have hwords : LoneParts "icon".toList "section:not(.items) svg.path > path".toList
    "title".toList := by decide
  have hpath : LoneParts "icon".toList "svg path:first-child".toList "title".toList := by decide
  refine ⟨hwords, hpath, (compile_loneSection_iff hwords).mpr (by decide), fun heq => ?_⟩
  exact absurd ((compile_loneSection_iff hpath).mp heq) (by decide)

end PageRules.RuleText
