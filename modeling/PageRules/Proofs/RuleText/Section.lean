import Mathlib
import PageRules.Proofs.RuleText.Field
import PageRules.Proofs.RuleText.Scan

/-!
# Sections come back as written

The block of items gives its template back (`itemTemplate?_written`), the body of a section its
fields and its items (`sectionBody_written`), and the block of a section its rule
(`section?_written`). What a block holds is read through its characters alone, except where the
block of items is cut out of the body of its section.
-/

namespace PageRules

open RuleText

/-! ## The texts of blocks -/

theorem Template.Writable.line {t : Template} (h : t.Writable) {indent line : Text}
    (hi : ∀ c ∈ indent, c = ' ') (hl : line ∈ t.fieldLines indent) :
    Text.Plain line ∧ Keyword.items.occurs true line = false := by
  obtain ⟨e, he, rfl⟩ := List.mem_map.mp hl
  exact ⟨(h.fields e he).plain hi e.1, (h.fields e he).occurs hi e.1⟩

namespace RuleText

/-- A plain header, balanced lines and writable options make the text of a block. -/
theorem blockText_of_plain {header : Text} {inner : List Text} {o : OptionSet}
    (hh : Text.Plain header) (hi : Balanced (Text.unlines inner)) (ho : o.Writable) :
    BlockText header inner o.write where
  header_chars := ⟨hh.not_mem _ (by simp), hh.not_mem _ (by simp), hh.not_mem _ (by simp)⟩
  inner_balanced := hi
  options_chars := ⟨ho.plain_write.not_mem _ (by simp), ho.plain_write.not_mem _ (by simp)⟩
  trailer _ := optionRun_write ho

theorem balanced_fieldLines {t : Template} (h : t.Writable) {indent : Text}
    (hi : ∀ c ∈ indent, c = ' ') : Balanced (Text.unlines (t.fieldLines indent)) :=
  .unlines fun _ hl => .of_plain (h.line hi hl).1

end RuleText

theorem Template.Writable.blockText {t : Template} (h : t.Writable) :
    BlockText t.selector (t.fieldLines "      ".toList) t.sectionOptions.write :=
  blockText_of_plain h.selector_plain (balanced_fieldLines h (by simp)) h.section_options

namespace RuleText

/-! ## Items -/

variable {b : Block}

theorem trailerOptions_eq {o : OptionSet} (h : o.Writable) (hb : b.trailer.chars = o.write) :
    trailerOptions b = pure o := by
  rw [trailerOptions, hb, optionGroups_write h, h.readOptions]

theorem addSectionOptions_eq (t : Template) :
    Template.addSectionOptions { name := t.name, selector := t.selector } t.sectionOptions =
      t.head := by
  rw [Template.addSectionOptions, Template.head]
  simp only
  rw [WriteOnce.empty_insertAll]

theorem text_header {header : Text} (hn : header ≠ []) (ht : Text.Trimmed header)
    (hb : b.header.chars = ' ' :: header ++ [' ']) : b.header.text = header := by
  rw [Fragment.text, hb]
  exact Text.trim_append_append (s := [' ']) (by simp [Text.isBlank]) ht hn (by simp [Text.isBlank])

/-- A scan for items comes upon none in the lines of fields. -/
theorem scanFrom_fieldLines {t : Template} (h : t.Writable) {indent : Text}
    (hi : ∀ c ∈ indent, c = ' ') (pos : Nat) (s : Text) :
    scanFrom .items pos 0 true ('\n' :: Text.unlines (t.fieldLines indent) ++ s) =
      scanFrom .items (pos + ('\n' :: Text.unlines (t.fieldLines indent)).length) 0 true s := by
  rw [← Text.unlines_nil_cons]
  refine scanFrom_unlines (fun line hl => ?_) pos s
  rcases List.mem_cons.mp hl with rfl | hl
  · exact ⟨by simp, by simp, rfl⟩
  · obtain ⟨hp, ho⟩ := h.line hi hl
    exact ⟨hp.not_mem _ (by simp), hp.not_mem _ (by simp), ho⟩

theorem lines_fieldLines {t : Template} (h : t.Writable) {indent : Text}
    (hi : ∀ c ∈ indent, c = ' ') {last : Text} (hl : '\n' ∉ last) :
    Text.lines ('\n' :: Text.unlines (t.fieldLines indent) ++ last) =
      [] :: t.fieldLines indent ++ [last] := by
  rw [← Text.unlines_nil_cons, lines_unlines]
  · rw [Text.lines, Text.splitOn_of_forall_not (Text.beq_eq_false_of_mem hl)]
  · intro line hl
    rcases List.mem_cons.mp hl with rfl | hl
    · simp
    · exact (h.line hi hl).1.not_mem _ (by simp)

/-- The block of a template of items gives the template back. -/
theorem itemTemplate?_written {t : Template} (hname : t.name = itemsName) (h : t.Writable)
    (pos : Nat) {indent : Text} (hi : ∀ c ∈ indent, c = ' ') :
    itemTemplate? (.written pos indent .items t.selector (t.fieldLines "      ".toList)
      t.sectionOptions.write) = pure (some t) := by
  generalize hb : Block.written pos indent .items t.selector (t.fieldLines "      ".toList)
    t.sectionOptions.write = b
  have hheader : b.header.chars = ' ' :: t.selector ++ [' '] := by rw [← hb]; rfl
  have hbody : b.body.chars = '\n' :: Text.unlines (t.fieldLines "      ".toList) ++ indent := by
    rw [← hb]
    rfl
  have htrailer : b.trailer.chars = t.sectionOptions.write := by rw [← hb]; rfl
  have hfields : ∀ c ∈ "      ".toList, c = ' ' := by simp
  have hnone : scanBlocks .items b.body = {} := by
    rw [scanBlocks, hbody, scanFrom_fieldLines h hfields, scanFrom_indent_end hi]
  have hchars : (linesExcluding b.body []).map (·.chars) =
      [] :: t.fieldLines "      ".toList ++ [indent] := by
    rw [chars_linesExcluding_nil (by simp [hbody]), hbody, lines_fieldLines h hfields]
    exact fun hc => absurd (hi _ hc) (by decide)
  have hlines := Template.addLines_fieldLines h hfields [indent] (by simpa using hi) hchars
  rw [itemTemplate?, text_header h.selector_ne_nil h.selector_trimmed hheader,
    if_neg h.selector_ne_nil, trailerOptions_eq h.section_options htrailer, pure_bind]
  dsimp only
  rw [hnone, List.map_nil, Noted.ofNotes_nil, pure_bind, ← hname, addSectionOptions_eq,
    List.map_nil, hlines, pure_bind]

/-! ## Bodies of sections -/

theorem sectionBody_of_scan {u : Template} {body : Fragment} {blocks : List Block}
    (h : scanBlocks .items body = { blocks }) :
    sectionBody u body = do
      let items ← firstItems none blocks
      let t ← addLines u (linesExcluding body (blocks.map Block.hole))
      return { toTemplate := t, items } := by
  rw [sectionBody, h]
  simp [reportMalformed]

theorem sectionBody_fields {t : Template} (h : t.Writable) {body : Fragment}
    (hb : body.chars = '\n' :: Text.unlines (t.fieldLines "    ".toList) ++ "  ".toList) :
    sectionBody t.head body = pure { toTemplate := t } := by
  have hfields : ∀ c ∈ "    ".toList, c = ' ' := by simp
  have hscan : scanBlocks .items body = { blocks := [] } := by
    rw [scanBlocks, hb, scanFrom_fieldLines h hfields, scanFrom_indent_end (by simp)]
  have hchars : (linesExcluding body []).map (·.chars) =
      [] :: t.fieldLines "    ".toList ++ ["  ".toList] := by
    rw [chars_linesExcluding_nil (by simp [hb]), hb, lines_fieldLines h hfields]
    decide
  rw [sectionBody_of_scan hscan, firstItems, pure_bind, List.map_nil,
    Template.addLines_fieldLines h hfields ["  ".toList] (by simp) hchars]
  rfl

/-- The block of the items is read and cut out, and the lines around it define the fields. -/
theorem sectionBody_items {t items : Template} (h : t.Writable) (hname : items.name = itemsName)
    (hitems : items.Writable) {body : Fragment}
    (hb : body.chars = '\n' :: Text.unlines (t.fieldLines "    ".toList) ++
      (Text.unlines items.itemLines ++ "  ".toList)) :
    sectionBody t.head body = pure { toTemplate := t, items := some items } := by
  have hfields : ∀ c ∈ "    ".toList, c = ' ' := by simp
  have hscan : scanBlocks .items body = { blocks :=
      [.written (body.start + ('\n' :: Text.unlines (t.fieldLines "    ".toList)).length)
        "    ".toList .items items.selector (items.fieldLines "      ".toList)
        items.sectionOptions.write] } := by
    rw [scanBlocks, hb, scanFrom_fieldLines h hfields, Template.itemLines,
      scanFrom_block hfields hitems.blockText rfl, scanFrom_indent_end (by simp)]
    rfl
  have hsplit : body.chars =
      ('\n' :: Text.unlines (t.fieldLines "    ".toList) ++ "    ".toList) ++
        (blockText "    ".toList .items items.selector (items.fieldLines "      ".toList)
          items.sectionOptions.write ++ '\n' :: "  ".toList) := by
    rw [hb, Template.itemLines, unlines_blockLines_eq_blockText, List.append_assoc]
  have hchars := chars_linesExcluding_hole hsplit (by simp) (by simp [blockText]) (by simp)
  have hhole : body.start + ('\n' :: Text.unlines (t.fieldLines "    ".toList)).length +
      "    ".toList.length = body.start +
        ('\n' :: Text.unlines (t.fieldLines "    ".toList) ++ "    ".toList).length := by
    rw [List.length_append, Nat.add_assoc]
  have hafter : Text.lines ('\n' :: "  ".toList) = [[], "  ".toList] := rfl
  rw [lines_fieldLines h hfields (by decide), hafter, List.append_assoc] at hchars
  have hlines := Template.addLines_fieldLines h hfields _ (by simp) hchars
  rw [sectionBody_of_scan hscan, firstItems, itemTemplate?_written hname hitems _ hfields,
    pure_bind, firstItems, pure_bind, List.map_cons, List.map_nil, Block.hole_written, hhole,
    hlines]
  rfl

/-- The body of a section gives the fields and the items back. -/
theorem sectionBody_written {r : Rule} (h : r.Writable) {body : Fragment}
    (hb : body.chars = '\n' :: Text.unlines
      (r.fieldLines "    ".toList ++ r.items.elim [] Template.itemLines) ++ "  ".toList) :
    sectionBody r.head body = pure r := by
  obtain ⟨t, items⟩ := r
  cases items with
  | none =>
    refine sectionBody_fields h.template ?_
    rw [hb, Option.elim_none, List.append_nil]
  | some items =>
    obtain ⟨hname, hitems⟩ := h.items items rfl
    refine sectionBody_items h.template hname hitems ?_
    rw [hb, Option.elim_some, Text.unlines_append]
    simp

/-! ## Sections -/

/-- The name of a section ends at the first blank, and the rest is its selector. -/
theorem sectionHead_eq {name selector : Text} (hn : name.all isNameChar = true)
    (hs : Text.Trimmed selector) : sectionHead (name ++ ' ' :: selector) = (name, selector) := by
  have hb : ∀ c ∈ name, Text.isBlank c = false := fun c hc =>
    not_isBlank (List.all_eq_true.mp hn c hc)
  unfold sectionHead
  rw [Text.splitOnce_append hb rfl]
  dsimp only
  rw [hs]

end RuleText

theorem Rule.Writable.blockText {r : Rule} (h : r.Writable) :
    BlockText (r.name ++ ' ' :: r.selector)
      (r.fieldLines "    ".toList ++ r.items.elim [] Template.itemLines)
      r.sectionOptions.write := by
  refine blockText_of_plain ?_ ?_ h.template.section_options
  · exact (plain_of_isNameChar h.name_chars).append_cons h.template.selector_plain (by decide)
  · rw [Text.unlines_append]
    refine (balanced_fieldLines h.template (by simp)).append ?_
    cases hi : r.items with
    | none => exact .nil
    | some t => exact (h.items t hi).2.blockText.balanced (by simp) _

/-- The block of a section gives its rule back. -/
theorem Rule.Writable.section?_written {r : Rule} (h : r.Writable) (pos : Nat) :
    RuleText.section? (.written pos "  ".toList .section (r.name ++ ' ' :: r.selector)
      (r.fieldLines "    ".toList ++ r.items.elim [] Template.itemLines)
      r.sectionOptions.write) = pure (some r) := by
  generalize hb : Block.written pos "  ".toList .section (r.name ++ ' ' :: r.selector)
    (r.fieldLines "    ".toList ++ r.items.elim [] Template.itemLines) r.sectionOptions.write = b
  have hheader : b.header.chars = ' ' :: (r.name ++ ' ' :: r.selector) ++ [' '] := by rw [← hb]; rfl
  have hbody : b.body.chars = '\n' :: Text.unlines
      (r.fieldLines "    ".toList ++ r.items.elim [] Template.itemLines) ++ "  ".toList := by
    rw [← hb]
    rfl
  have htrailer : b.trailer.chars = r.sectionOptions.write := by rw [← hb]; rfl
  have hhead : b.header.text = r.name ++ ' ' :: r.selector := by
    refine text_header (by simp) ?_ hheader
    simpa using Text.trimmed_append (trimmed_of_isNameChar h.name_chars) h.template.selector_trimmed
      h.name_ne_nil h.template.selector_ne_nil [' ']
  have hok : ¬ (r.name = [] ∨ (!r.name.all isNameChar) = true) := by
    simp [h.name_ne_nil, h.name_chars]
  rw [section?, hhead, sectionHead_eq h.name_chars h.template.selector_trimmed]
  dsimp only
  rw [if_neg hok, if_neg h.template.selector_ne_nil, trailerOptions_eq h.template.section_options
    htrailer, pure_bind, addSectionOptions_eq, sectionBody_written h hbody, pure_bind]

end PageRules
