import Mathlib
import PageRules.Proofs.RuleText.Origin

/-!
# Which line defines a field

A selector and a set of options are written once for each field of a body, each by the first line
that gives one (`get?_fieldSelectors_addLines`, `get?_fieldOptions_addLines`). A field with a
selector has the options of the line of its selector, unless a line before it is about the field and
gives no selector (`fields_defined`).
-/

namespace PageRules.RuleText

variable {f : Field} {line : Fragment} {lines : List Fragment} {t : Template}

/-! ## Lines -/

/-- The selector that a line gives a field. The word `null` stands for none. -/
def selectorOn? (f : Field) (line : Fragment) : Option Text := do
  let (g, definition) ← fieldOf? line.text
  let selector := (splitField definition).1
  if f = g ∧ selector ≠ nullSelector ∧ selector ≠ [] then some selector else none

/-- The options that a line gives a field. A line about the field always gives some, be they an
empty set, and no other line does. -/
def optionsOn? (f : Field) (line : Fragment) : Option OptionSet := do
  let (g, definition) ← fieldOf? line.text
  if f = g then some (readOptions line.start (splitField definition).2).value else none

theorem fieldOf?_eq_none_of_skipped (h : line.text = [] ∨ line.text.head? = some '#') :
    fieldOf? line.text = none := by
  rcases h with h | h
  · rw [h]
    rfl
  · exact fieldOf?_eq_none_of_head h (by decide) (by decide) fun f => by cases f <;> decide

/-- A line that gives a selector gives options with it. -/
theorem exists_optionsOn {selector : Text} (h : selectorOn? f line = some selector) :
    ∃ o, optionsOn? f line = some o := by
  obtain ⟨⟨g, definition⟩, hline, h⟩ := Option.bind_eq_some_iff.mp h
  dsimp only at h
  split at h
  · rename_i hg
    refine ⟨(readOptions line.start (splitField definition).2).value, ?_⟩
    rw [optionsOn?, hline]
    exact if_pos hg.1
  · cases h

/-- A line that defines a field is read as a definition of it. -/
theorem addLine_of_fieldOf? {definition : Text} (h : fieldOf? line.text = some (f, definition))
    (t : Template) : addLine t line = defineField line.start t f definition := by
  have hskip : ¬ (line.text = [] ∨ line.text.head? = some '#') := by
    intro hskip
    rw [fieldOf?_eq_none_of_skipped hskip] at h
    cases h
  unfold addLine
  dsimp only
  rw [if_neg hskip, h]

theorem value_addLine_of_eq_none (h : fieldOf? line.text = none) (t : Template) :
    (addLine t line).value = t := by
  unfold addLine
  dsimp only
  split
  · rfl
  · rw [h]
    rfl

theorem value_defineField (start : Nat) (t : Template) (f : Field) (definition : Text) :
    (defineField start t f definition).value =
      (if (splitField definition).1 ≠ nullSelector ∧ (splitField definition).1 ≠ [] then
        t.addFieldSelector f (splitField definition).1 else t).addFieldOptions f
          (readOptions start (splitField definition).2).value := by
  unfold defineField
  dsimp only
  by_cases hnull : (splitField definition).1 = nullSelector
  · rw [if_neg fun h => h.1 hnull, Noted.value_bind, if_pos hnull]
    rfl
  by_cases hempty : (splitField definition).1 = []
  · rw [if_neg fun h => h.2 hempty, Noted.value_bind, if_neg hnull, if_pos hempty]
    rfl
  · rw [if_pos ⟨hnull, hempty⟩, Noted.value_bind, if_neg hnull, if_neg hempty]
    rfl

/-! ## Bodies -/

theorem get?_fieldSelectors_addLine (f : Field) (t : Template) (line : Fragment) :
    (addLine t line).value.fieldSelectors.get? f =
      (t.fieldSelectors.get? f).or (selectorOn? f line) := by
  cases hline : fieldOf? line.text with
  | none =>
    rw [value_addLine_of_eq_none hline, selectorOn?, hline]
    exact Option.or_none.symm
  | some parts =>
    obtain ⟨g, definition⟩ := parts
    have hselector : selectorOn? f line =
        if f = g ∧ (splitField definition).1 ≠ nullSelector ∧ (splitField definition).1 ≠ [] then
          some (splitField definition).1 else none := by
      rw [selectorOn?, hline]
      rfl
    rw [addLine_of_fieldOf? hline, value_defineField, hselector]
    by_cases hs : (splitField definition).1 ≠ nullSelector ∧ (splitField definition).1 ≠ []
    · rw [if_pos hs]
      simp only [hs, ne_eq, not_false_eq_true, and_true]
      exact WriteOnce.get?_insert f
    · rw [if_neg hs, if_neg fun h => hs h.2]
      exact Option.or_none.symm

theorem get?_fieldOptions_addLine (f : Field) (t : Template) (line : Fragment) :
    (addLine t line).value.fieldOptions.get? f =
      (t.fieldOptions.get? f).or (optionsOn? f line) := by
  cases hline : fieldOf? line.text with
  | none =>
    rw [value_addLine_of_eq_none hline, optionsOn?, hline]
    exact Option.or_none.symm
  | some parts =>
    obtain ⟨g, definition⟩ := parts
    have hoptions : optionsOn? f line =
        if f = g then some (readOptions line.start (splitField definition).2).value else none := by
      rw [optionsOn?, hline]
      rfl
    rw [addLine_of_fieldOf? hline, value_defineField, hoptions]
    split
    · exact WriteOnce.get?_insert f
    · exact WriteOnce.get?_insert f

/-- What each line offers to a slot of a template is written to it once, by the first line that
offers something. -/
theorem get?_addLines {α : Type} (slot : Template → WriteOnce Field α)
    {offered : Fragment → Option α}
    (hstep : ∀ t line, (slot (addLine t line).value).get? f = ((slot t).get? f).or (offered line))
    (t : Template) (lines : List Fragment) :
    (slot (addLines t lines).value).get? f = ((slot t).get? f).or (lines.findSome? offered) := by
  induction lines generalizing t with
  | nil => exact Option.or_none.symm
  | cons line lines ih =>
    have hmore := ih (addLine t line).value
    rw [hstep, Option.or_assoc] at hmore
    rw [addLines, List.foldlM_cons, Noted.value_bind, List.findSome?_cons]
    apply hmore.trans
    cases offered line with
    | some a => rfl
    | none => rfl

/-- The selector of a field is that of the first line that gives it one. -/
theorem get?_fieldSelectors_addLines (f : Field) (t : Template) (lines : List Fragment) :
    (addLines t lines).value.fieldSelectors.get? f =
      (t.fieldSelectors.get? f).or (lines.findSome? (selectorOn? f)) :=
  get?_addLines Template.fieldSelectors (get?_fieldSelectors_addLine f) t lines

/-- The options of a field are those of the first line that defines it. -/
theorem get?_fieldOptions_addLines (f : Field) (t : Template) (lines : List Fragment) :
    (addLines t lines).value.fieldOptions.get? f =
      (t.fieldOptions.get? f).or (lines.findSome? (optionsOn? f)) :=
  get?_addLines Template.fieldOptions (get?_fieldOptions_addLine f) t lines

/-- How lines define a field that has a selector. The selector is that of the first line that gives
the field one. The options are those of this line, but where lines before it are about the field,
which all give no selector, they are those of the first of these. -/
def DefinedOn (lines : List Fragment) (t : Template) (f : Field) (selector : Text) : Prop :=
  ∃ before line after o, lines = before ++ line :: after ∧
    selectorOn? f line = some selector ∧ optionsOn? f line = some o ∧
    (∀ l ∈ before, selectorOn? f l = none) ∧
    ((∀ l ∈ before, optionsOn? f l = none) → t.fieldOptions.get? f = some o) ∧
    ∀ o', before.findSome? (optionsOn? f) = some o' → t.fieldOptions.get? f = some o'

/-- Lines define the fields of a template that has none yet. -/
theorem definedOn_addLines {selector : Text} (hselectors : t.fieldSelectors = .empty)
    (hoptions : t.fieldOptions = .empty)
    (h : (addLines t lines).value.fieldSelectors.get? f = some selector) :
    DefinedOn lines (addLines t lines).value f selector := by
  rw [get?_fieldSelectors_addLines, hselectors] at h
  obtain ⟨before, line, after, rfl, hline, hbefore⟩ := List.findSome?_eq_some_iff.mp h
  obtain ⟨o, ho⟩ := exists_optionsOn hline
  have hfirst : (addLines t (before ++ line :: after)).value.fieldOptions.get? f =
      (before.findSome? (optionsOn? f)).or (some o) := by
    rw [get?_fieldOptions_addLines, hoptions, List.findSome?_append, List.findSome?_cons, ho]
    rfl
  refine ⟨before, line, after, o, rfl, hline, ho, hbefore, fun hnone => ?_, fun o' ho' => ?_⟩
  · rw [hfirst, List.findSome?_eq_none_iff.mpr hnone, Option.none_or]
  · rw [hfirst, ho', Option.some_or]

/-! ## Rules -/

/-- The lines of the body of a section, without its items blocks. -/
def sectionLines (b : Block) : List Fragment :=
  linesExcluding b.body ((scanBlocks .items b.body).blocks.map Block.hole ++
    (scanBlocks .items b.body).malformed.map (Malformed.hole b.body))

/-- The lines of the body of an items block, without the items blocks in it. -/
def itemLines (b : Block) : List Fragment :=
  linesExcluding b.body ((scanBlocks .items b.body).blocks.map Block.hole)

theorem itemTemplate?_definedOn {b : Block} {selector : Text} (h : (itemTemplate? b).value = some t)
    (hf : t.fieldSelectors.get? f = some selector) : DefinedOn (itemLines b) t f selector := by
  unfold itemTemplate? at h
  split at h
  · cases h
  · cases h
    exact definedOn_addLines rfl rfl hf

theorem section?_definedOn {b : Block} {r : Rule} {selector : Text}
    (h : (section? b).value = some r) (hf : r.fieldSelectors.get? f = some selector) :
    DefinedOn (sectionLines b) r.toTemplate f selector := by
  unfold section? at h
  dsimp only at h
  split at h
  · cases h
  split at h
  · cases h
  cases h
  exact definedOn_addLines rfl rfl hf

/-- Every field with a selector, of every rule that a text compiles to and of its items, is defined
on the lines of the body that it is written in: selector and options come from one line, unless a
line before gives the field options and no selector. -/
theorem fields_defined {raw : Text} {r : Rule} (hr : r ∈ (compile raw).rules) :
    ∃ b ∈ compiledSections raw, (section? b).value = some r ∧
      (∀ f selector, r.fieldSelectors.get? f = some selector →
        DefinedOn (sectionLines b) r.toTemplate f selector) ∧
      ∀ t ∈ r.items, ∃ i ∈ (scanBlocks .items b.body).blocks, (itemTemplate? i).value = some t ∧
        ∀ f selector, t.fieldSelectors.get? f = some selector →
          DefinedOn (itemLines i) t f selector := by
  obtain ⟨b, hb, hmade, -⟩ := exists_compiledSection hr
  refine ⟨b, hb, hmade, fun f selector hf => section?_definedOn hmade hf, fun t ht => ?_⟩
  obtain ⟨i, hi, hitems⟩ := exists_itemsBlock hmade ht
  exact ⟨i, hi, hitems, fun f selector hf => itemTemplate?_definedOn hitems hf⟩

/-- A section whose fields are defined on several lines, with and without selectors. -/
def manyLinesText : Text :=
  ("section: s .s \x7b\n link: a [limit: 2]\n link: b [limit: 3]\n link: null [index: 1]\n" ++
    " text: null [limit: 1]\n text: p [index: 2]\n" ++
    " items: li \x7b\n  img: img [attr: src]\n  img: [limit: 9]\n \x7d\n\x7d").toList

/-- Its links have the options of the line of their selector, its text has those of the line before,
which gives no selector. -/
theorem fields_defined_manyLinesText :
    ∃ r ∈ (compile manyLinesText).rules,
      r.fieldSelectors.entries = [(.link, ['a']), (.text, ['p'])] ∧
      r.fieldOptions.entries = [(.link, .ofList [(OptionKey.limit, .integer 2)]),
        (.text, .ofList [(OptionKey.limit, .integer 1)])] ∧
      ∃ b ∈ compiledSections manyLinesText, (section? b).value = some r ∧
        (∀ f selector, r.fieldSelectors.get? f = some selector →
          DefinedOn (sectionLines b) r.toTemplate f selector) ∧
        ∀ t ∈ r.items, ∃ i ∈ (scanBlocks .items b.body).blocks, (itemTemplate? i).value = some t ∧
          ∀ f selector, t.fieldSelectors.get? f = some selector →
            DefinedOn (itemLines i) t f selector := by
  have hrules : (compile manyLinesText).rules.map
      (fun r => (r.fieldSelectors.entries, r.fieldOptions.entries)) =
        [([(.link, ['a']), (.text, ['p'])], [(.link, .ofList [(OptionKey.limit, .integer 2)]),
          (.text, .ofList [(OptionKey.limit, .integer 1)])])] := by decide +kernel
  obtain ⟨r, hr, hentries⟩ := List.mem_map.mp (hrules ▸ List.mem_singleton_self _)
  obtain ⟨hselectors, hoptions⟩ := Prod.mk.inj hentries
  exact ⟨r, hr, hselectors, hoptions, fields_defined hr⟩

end PageRules.RuleText
