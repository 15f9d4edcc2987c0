import Mathlib
import PageRules.Proofs.RuleText.Line
import PageRules.Proofs.RuleText.Noted

/-!
# Fields come back as written

Each line of `Template.fieldLines` defines its field again (`addLine_writeField`), and the lines of
all fields together give the template back (`addLines_fieldLines`).
-/

namespace PageRules

open RuleText

/-- The template before its fields are defined. -/
def Template.head (t : Template) : Template :=
  { name := t.name, selector := t.selector, sectionOptions := t.sectionOptions }

/-- The template after a line that defines a field. -/
def Template.define (t : Template) (f : Field) (selector : Option Text) (o : OptionSet) :
    Template :=
  (selector.elim t (t.addFieldSelector f)).addFieldOptions f o

namespace RuleText

/-! ## One line -/

section

variable {selector : Option Text} {o : OptionSet} (h : FieldWritable selector o)
include h

theorem FieldWritable.selector_ok :
    (selector.getD nullSelector) ≠ [] ∧ Text.Trimmed (selector.getD nullSelector) ∧
      bracketsTouch false (selector.getD nullSelector) = true := by
  cases selector with
  | none => exact ⟨by decide, by decide, by decide⟩
  | some s =>
    obtain ⟨-, hn, ht, -⟩ := h.selector_plain s rfl
    exact ⟨hn, ht, h.selector_brackets s rfl⟩

theorem FieldWritable.trimmed (f : Field) : Text.Trimmed (writeField f selector o) := by
  obtain ⟨hn, ht, -⟩ := h.selector_ok
  have hname : Text.Trimmed f.name := by cases f <;> decide
  have hne : f.name ≠ [] := by cases f <;> decide
  unfold writeField OptionSet.write
  split
  · simpa using Text.trimmed_append hname ht hne hn [':', ' ']
  · have hclose : Text.Trimmed [']'] := by decide
    have := Text.trimmed_append hname hclose hne (by simp)
      (':' :: ' ' :: selector.getD nullSelector ++ ' ' :: '[' :: o.inside)
    simpa using this

theorem FieldWritable.defineField (start : Nat) (t : Template) (f : Field) :
    defineField start t f (' ' :: selector.getD nullSelector ++ o.write) =
      pure (t.define f selector o) := by
  obtain ⟨hn, ht, hb⟩ := h.selector_ok
  unfold RuleText.defineField
  rw [splitField_write hn ht hb h.options]
  dsimp only
  rw [h.options.readOptions, pure_bind]
  cases selector with
  | none => rfl
  | some s =>
    obtain ⟨-, hs, -, hnull⟩ := h.selector_plain s rfl
    rw [Option.getD_some, if_neg hnull, if_neg hs]
    rfl

/-- A line defines its field as it was written. -/
theorem FieldWritable.addLine {indent : Text} (hi : ∀ c ∈ indent, c = ' ') (t : Template)
    (f : Field) (start : Nat) :
    addLine t ⟨start, indent ++ writeField f selector o⟩ = pure (t.define f selector o) := by
  have hsplit : writeField f selector o =
      f.name ++ ':' :: (' ' :: selector.getD nullSelector ++ o.write) := by simp [writeField]
  have hcolon : ':' ∉ f.name := by cases f <;> decide
  have hne : writeField f selector o ≠ [] := by simp [writeField]
  have hhead : (writeField f selector o).head? ≠ some '#' := by
    rw [hsplit]
    cases f <;> simp [Field.name]
  have htext : Text.trim (indent ++ writeField f selector o) = writeField f selector o := by
    have := Text.trim_append_append (s := indent) (u := []) (fun c hc => by rw [hi c hc]; rfl)
      (h.trimmed f) hne (by simp)
    rwa [List.append_nil] at this
  have hfield : fieldOf? (writeField f selector o) =
      some (f, ' ' :: selector.getD nullSelector ++ o.write) := by
    have hname : Field.ofName? (Text.trim f.name) = some f := by cases f <;> decide
    rw [hsplit, fieldOf?, Text.splitOnce_append (Text.beq_eq_false_of_mem hcolon) rfl]
    simp [hname]
  unfold RuleText.addLine Fragment.text
  dsimp only
  rw [htext, if_neg (by simp [hne, hhead]), hfield]
  exact h.defineField start t f

end

/-! ## What a line holds -/

open Keyword in
theorem occurs_writeEntry {e : Text × OptionValue} (h : OptionSet.EntryWritable e) {k : Keyword}
    (hk : ∀ t ∈ e.2.texts, k.occurs true t = false) :
    k.occurs false (OptionSet.writeEntry e) = false := by
  have hkey : ∀ c ∈ e.1, boundsKeyword c = false := fun c hc =>
    not_boundsKeyword (List.all_eq_true.mp h.all_isNameChar c hc)
  have hquoted {t : Text} (ht : k.occurs false t = false) :
      k.occurs false (OptionValue.quoted t) = false := by
    have hd : k.Barrier '"' := barrier_of_mem (by decide)
    unfold OptionValue.quoted
    split
    · exact ht
    · rw [List.cons_append, occurs_cons_of_not_letter hd.not_letter, occurs_append_barrier hd]
      exact Bool.or_eq_false_iff.mpr ⟨ht, rfl⟩
  have hwritten {w : Text} (hw : e.2.written? = some w) : k.occurs false w = false := by
    cases hv : e.2 with
    | flag b => rw [hv] at hw; cases hw
    | text t =>
      rw [hv] at hk hw
      cases hw
      exact hquoted (occurs_false_of_true (hk t List.mem_cons_self) _)
    | list items =>
      rw [hv] at hk hw
      cases hw
      exact hquoted (occurs_join (barrier_of_mem (by decide)) rfl
        fun t ht => occurs_false_of_true (hk t ht) _)
    | integer n =>
      rw [hv] at hw
      cases hw
      refine occurs_of_not_colon_mem (fun hc => ?_) _
      exact not_mem_marks (List.all_eq_true.mp (all_isNameChar_ofInt n) _ hc) (by decide)
  unfold OptionSet.writeEntry
  rw [occurs_append_of_not_bounds hkey]
  cases hw : e.2.written? with
  | none => rfl
  | some w =>
    have hc : k.occurs false (':' :: w) = k.occurs false w := rfl
    exact hc.trans (hwritten hw)

open Keyword in
theorem occurs_append_write {o : OptionSet} (h : o.Writable) {k : Keyword} {s : Text}
    (hs : k.occurs true s = false)
    (hk : ∀ e ∈ o.entries, ∀ t ∈ e.2.texts, k.occurs true t = false) :
    k.occurs true (s ++ o.write) = false := by
  unfold OptionSet.write
  split
  · rwa [List.append_nil]
  · have hinside : k.occurs false o.inside = false := by
      refine occurs_join (barrier_of_mem (by decide)) rfl fun t ht => ?_
      obtain ⟨e, he, rfl⟩ := List.mem_map.mp ht
      exact occurs_writeEntry (h e he) (hk e he)
    have hsplit : s ++ (' ' :: '[' :: o.inside ++ [']']) =
        (s ++ [' ']) ++ '[' :: (o.inside ++ ']' :: []) := by simp
    rw [hsplit, occurs_append_barrier (barrier_of_mem (by decide)), occurs_append_gap, hs,
      occurs_append_barrier (barrier_of_mem (by decide))]
    exact Bool.or_eq_false_iff.mpr ⟨rfl, Bool.or_eq_false_iff.mpr ⟨hinside, rfl⟩⟩

section

variable {selector : Option Text} {o : OptionSet} (h : FieldWritable selector o)
include h

/-- No keyword of items stands on the line of a field. -/
theorem FieldWritable.occurs {indent : Text} (hi : ∀ c ∈ indent, c = ' ') (f : Field) :
    Keyword.items.occurs true (indent ++ writeField f selector o) = false := by
  have hname (t : Text) : Keyword.items.occurs true (f.name ++ ':' :: ' ' :: t) =
      Keyword.items.occurs true t := by
    cases f <;> rfl
  have hsel : Keyword.items.occurs true (selector.getD nullSelector) = false := by
    cases selector with
    | none => rfl
    | some s => exact h.selector_items s rfl
  have hsplit : writeField f selector o =
      f.name ++ ':' :: ' ' :: (selector.getD nullSelector ++ o.write) := by simp [writeField]
  rw [Keyword.occurs_indent hi, hsplit, hname]
  exact occurs_append_write h.options hsel h.options_items

theorem FieldWritable.plain {indent : Text} (hi : ∀ c ∈ indent, c = ' ') (f : Field) :
    Text.Plain (indent ++ writeField f selector o) := by
  have hsel : Text.Plain (selector.getD nullSelector) := by
    cases selector with
    | none => exact plain_of_isNameChar (all_isNameChar rfl)
    | some s => exact (h.selector_plain s rfl).1
  have hname : Text.Plain f.name := by
    cases f <;> exact plain_of_isNameChar (all_isNameChar rfl)
  have hsplit : writeField f selector o =
      f.name ++ ':' :: ' ' :: (selector.getD nullSelector ++ o.write) := by simp [writeField]
  have hrest : Text.Plain (selector.getD nullSelector ++ o.write) := by
    refine hsel.append h.options.plain_write fun c hc => ?_
    rw [OptionSet.eq_space_of_mem_head?_write hc]
    decide
  rw [hsplit]
  exact .indent hi (by decide) (hname.append_cons (hrest.cons (by decide)) (by decide))

end

/-! ## All lines -/

theorem addLine_blank {t : Template} {line : Fragment} (h : ∀ c ∈ line.chars, c = ' ') :
    addLine t line = pure t := by
  have hb : Text.trim line.chars = [] := Text.trim_of_blank fun c hc => by rw [h c hc]; rfl
  unfold addLine Fragment.text
  dsimp only
  rw [hb, if_pos (.inl rfl)]

theorem addLines_blank {frags : List Fragment} (h : ∀ f ∈ frags, ∀ c ∈ f.chars, c = ' ')
    (t : Template) : addLines t frags = pure t := by
  rw [addLines, Noted.foldlM_pure (g := fun t _ => t) (fun t f hf => addLine_blank (h f hf))]
  exact congrArg pure (List.foldl_fixed frags)

/-- Lines that define fields, one for each entry, define them in order. -/
theorem addLines_writeField (selector : Field → Option Text) {indent : Text}
    (hi : ∀ c ∈ indent, c = ' ') {es : List (Field × OptionSet)}
    (h : ∀ e ∈ es, FieldWritable (selector e.1) e.2) {frags : List Fragment}
    (hf : frags.map (·.chars) = es.map fun e => indent ++ writeField e.1 (selector e.1) e.2)
    (t : Template) :
    addLines t frags = pure (es.foldl (fun t e => t.define e.1 (selector e.1) e.2) t) := by
  induction es generalizing frags t with
  | nil =>
    obtain rfl := List.map_eq_nil_iff.mp hf
    rfl
  | cons e es ih =>
    obtain ⟨⟨start, chars⟩, frags, rfl, rfl, hfrags⟩ := List.map_eq_cons_iff.mp hf
    rw [addLines, List.foldlM_cons, (h e List.mem_cons_self).addLine hi, pure_bind]
    exact ih (fun e he => h e (List.mem_cons_of_mem _ he)) hfrags _

end RuleText

/-! ## All fields -/

namespace Template

/-- Defining fields one after another writes their options and their selectors in that order. -/
theorem foldl_define (selector : Field → Option Text) (es : List (Field × OptionSet))
    (t : Template) :
    es.foldl (fun t e => t.define e.1 (selector e.1) e.2) t =
      { t with
        fieldSelectors := t.fieldSelectors.insertAll
          ((es.map Prod.fst).filterMap fun f => (selector f).map fun s => (f, s))
        fieldOptions := t.fieldOptions.insertAll es } := by
  induction es generalizing t with
  | nil => rfl
  | cons e es ih =>
    rw [List.foldl_cons, ih]
    cases hs : selector e.1 with
    | none => simp [define, hs, addFieldOptions]
    | some s => simp [define, hs, addFieldOptions, addFieldSelector]

variable {t : Template}

theorem foldl_define_fieldOptions (h : t.fieldSelectors.keys.Sublist t.fieldOptions.keys) :
    t.fieldOptions.entries.foldl (fun u e => u.define e.1 (t.fieldSelectors.get? e.1) e.2) t.head =
      t := by
  have hsel : (t.fieldOptions.entries.map Prod.fst).filterMap
      (fun f => (t.fieldSelectors.get? f).map fun s => (f, s)) = t.fieldSelectors.entries :=
    WriteOnce.filterMap_lookup h t.fieldOptions.nodup
  rw [foldl_define (fun f => t.fieldSelectors.get? f), hsel]
  simp [head, WriteOnce.empty_insertAll]

/-- The lines of the fields give the template back. -/
theorem addLines_fieldLines (h : t.Writable) {indent : Text} (hi : ∀ c ∈ indent, c = ' ')
    (blanks : List Text) (hb : ∀ b ∈ blanks, ∀ c ∈ b, c = ' ') {frags : List Fragment}
    (hf : frags.map (·.chars) = [] :: t.fieldLines indent ++ blanks) :
    addLines t.head frags = pure t := by
  obtain ⟨f, frags, rfl, hfirst, hf⟩ := List.map_eq_cons_iff.mp hf
  obtain ⟨defs, rest, rfl, hdefs, hrest⟩ := List.map_eq_append_iff.mp hf
  have hblank : ∀ f ∈ rest, ∀ c ∈ f.chars, c = ' ' := by
    intro f hf
    exact hb _ (hrest ▸ List.mem_map_of_mem hf)
  have hlines := addLines_writeField (fun f => t.fieldSelectors.get? f) hi h.fields hdefs
    t.head
  rw [addLines] at hlines ⊢
  rw [List.foldlM_cons, addLine_blank (by simp [hfirst]), pure_bind, List.foldlM_append, hlines,
    pure_bind, foldl_define_fieldOptions h.fields_order]
  exact addLines_blank hblank t

end Template
end PageRules
