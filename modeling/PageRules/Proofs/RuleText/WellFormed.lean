import Mathlib
import PageRules.Proofs.RuleText.Noted
import PageRules.Proofs.Text.Trim
import PageRules.Proofs.WriteOnce
import PageRules.RuleText.Compile

/-!
# Compiled rules are well formed

Whatever a rule text holds, the rules made from it meet the conditions below. They are settled one
level at a time: what one option part and what one line can do is said once (`setOption_cases`,
`LineStep`), and runs of parts and of lines keep what one step keeps.
-/

namespace PageRules

/-- Keys that stay apart from the one under which values are written. -/
structure IsOptionKey (key : Text) : Prop where
  ne_nil : key ≠ []
  ne_value : key ≠ OptionKey.value
  lower : ∀ c ∈ key, c.isUpper = false

structure OptionSet.WellFormed (o : OptionSet) : Prop where
  nodup : o.keys.Nodup
  keys : ∀ k ∈ o.keys, IsOptionKey k

structure Template.WellFormed (t : Template) : Prop where
  selector_ne_nil : t.selector ≠ []
  selector_trimmed : Text.Trimmed t.selector
  selectors_nodup : t.fieldSelectors.keys.Nodup
  options_nodup : t.fieldOptions.keys.Nodup
  has_options : ∀ f ∈ t.fieldSelectors.keys, f ∈ t.fieldOptions.keys
  selectors : ∀ e ∈ t.fieldSelectors.entries, e.2 ≠ [] ∧ e.2 ≠ "null".toList
  field_options : ∀ e ∈ t.fieldOptions.entries, e.2.WellFormed
  section_options : t.sectionOptions.WellFormed

/-- The template of items has no items of its own, since templates have no place for them. -/
structure Rule.WellFormed (r : Rule) : Prop where
  name_ne_nil : r.name ≠ []
  name_chars : ∀ c ∈ r.name, Text.isAlphanumeric c ∨ c = '_' ∨ c = '-'
  template : r.toTemplate.WellFormed
  items : ∀ t, r.items = some t → t.name = "items".toList ∧ t.WellFormed

/-- The implicit scope may lack rules; every scope that a path block declares has some. -/
structure RuleText.Compilation.WellFormed (c : Compilation) : Prop where
  patterns_nodup : (c.scopes.map (·.pattern)).Nodup
  patterns : ∀ s ∈ c.scopes, s.pattern ≠ [] ∧ Text.Trimmed s.pattern
  inhabited : (∃ rules, c.scopes = [.catchAll rules]) ∨ ∀ s ∈ c.scopes, s.rules ≠ []
  rules : ∀ s ∈ c.scopes, ∀ r ∈ s.rules, r.WellFormed

/-! ## Option sets -/

namespace OptionSet

theorem wellFormed_empty : WellFormed .empty := ⟨List.nodup_nil, by simp⟩

/-- An option is put in at most once, so the keys stay different. -/
theorem WellFormed.insert {o : OptionSet} (h : o.WellFormed) {k : Text} (hk : IsOptionKey k)
    (v : OptionValue) : WellFormed (o.insert k v) := by
  refine ⟨(o.insert k v).nodup, fun j hj => ?_⟩
  rcases WriteOnce.mem_keys_insert.mp hj with hj | rfl
  · exact h.keys j hj
  · exact hk

theorem WellFormed.insertAll {o p : OptionSet} (h : o.WellFormed) (hp : p.WellFormed) :
    WellFormed (o.insertAll p.entries) :=
  ⟨(o.insertAll p.entries).nodup, WriteOnce.forall_keys_insertAll h.keys fun _ he =>
    hp.keys _ (WriteOnce.mem_keys_of_mem_entries he)⟩

end OptionSet

namespace RuleText

theorem optionParts_lower (part : Text) : ∀ c ∈ (optionParts part).1, c.isUpper = false := by
  unfold optionParts
  split
  · exact fun _ => Text.not_isUpper_of_mem_lower
  · exact fun _ => Text.not_isUpper_of_mem_lower

/-- Setting a key changes nothing or adds one option. -/
theorem setOption_cases (start : Nat) (o : OptionSet) (key : Text) (written? : Option Text) :
    (setOption start o key written?).value = o ∨
      (key ≠ [] ∧ key ≠ OptionKey.value ∧
        ∃ v, (setOption start o key written?).value = o.insert key v) := by
  by_cases hn : key = []
  · exact .inl (by simp [setOption, hn])
  by_cases hv : key = OptionKey.value
  · exact .inl (by unfold setOption; rw [if_neg hn, if_pos hv]; rfl)
  cases written? with
  | none => exact .inr ⟨hn, hv, .flag true, by simp [setOption, hn, hv]⟩
  | some written =>
    cases hr : OptionValue.read key written with
    | ok value => exact .inr ⟨hn, hv, value, by simp [setOption, hn, hv, hr]⟩
    | error e => exact .inl (by simp [setOption, hn, hv, hr])

theorem addOption_wellFormed {o : OptionSet} (h : o.WellFormed) (start : Nat) (part : Text) :
    (addOption start o part).value.WellFormed := by
  rcases setOption_cases start o (optionParts (Text.trim part)).1 (optionParts (Text.trim part)).2
    with he | ⟨hn, hv, v, he⟩
  · rwa [addOption, he]
  · rw [addOption, he]
    exact h.insert ⟨hn, hv, optionParts_lower _⟩ v

/-- Whatever stands in the groups, the options that are read of it are well formed. -/
theorem readOptions_wellFormed (start : Nat) (groups : List Text) :
    (readOptions start groups).value.WellFormed := by
  exact Noted.foldlM_invariant OptionSet.WellFormed
    (fun _ part h => addOption_wellFormed h start part)
    _ OptionSet.wellFormed_empty

theorem trailerOptions_wellFormed (b : Block) : (trailerOptions b).value.WellFormed :=
  readOptions_wellFormed _ _

/-! ## Templates -/

/-- What a line of a body may do to a template. -/
inductive LineStep (t : Template) : Template → Prop where
  | skip : LineStep t t
  | options (f : Field) {o : OptionSet} (ho : o.WellFormed) : LineStep t (t.addFieldOptions f o)
  | selector (f : Field) {s : Text} {o : OptionSet} (hn : s ≠ []) (hs : s ≠ nullSelector)
      (ho : o.WellFormed) : LineStep t ((t.addFieldSelector f s).addFieldOptions f o)

theorem defineField_step (start : Nat) (t : Template) (f : Field) (definition : Text) :
    LineStep t (defineField start t f definition).value := by
  have ho := readOptions_wellFormed start (splitField definition).2
  unfold defineField
  by_cases hs : (splitField definition).1 = nullSelector
  · simpa [hs] using .options f ho
  by_cases hn : (splitField definition).1 = []
  · simpa [hn, nullSelector] using .options f ho
  · simpa [hs, hn] using .selector f hn hs ho

/-- A line changes a template in one of these ways. -/
theorem addLine_step (t : Template) (line : Fragment) : LineStep t (addLine t line).value := by
  unfold addLine
  dsimp only
  split
  · exact .skip
  · split
    · exact defineField_step ..
    · exact .skip

/-- Lines leave the head of a template and its section options as they were. -/
theorem LineStep.head {t t' : Template} (h : LineStep t t') :
    t'.name = t.name ∧ t'.selector = t.selector ∧ t'.sectionOptions = t.sectionOptions := by
  cases h <;> exact ⟨rfl, rfl, rfl⟩

/-- Each of these ways keeps a template well formed. -/
theorem LineStep.wellFormed {t t' : Template} (hs : LineStep t t') (h : t.WellFormed) :
    t'.WellFormed := by
  cases hs with
  | skip => exact h
  | options f ho =>
    exact { h with
      options_nodup := (t.fieldOptions.insert f _).nodup
      has_options := fun g hg => WriteOnce.mem_keys_insert.mpr (.inl (h.has_options g hg))
      field_options := fun e he => by
        rcases WriteOnce.mem_entries_insert he with he | rfl
        · exact h.field_options e he
        · exact ho }
  | selector f hn hs ho =>
    exact { h with
      selectors_nodup := (t.fieldSelectors.insert f _).nodup
      options_nodup := (t.fieldOptions.insert f _).nodup
      has_options := fun g hg => by
        rcases WriteOnce.mem_keys_insert.mp hg with hg | rfl
        · exact WriteOnce.mem_keys_insert.mpr (.inl (h.has_options g hg))
        · exact WriteOnce.mem_keys_insert.mpr (.inr rfl)
      selectors := fun e he => by
        rcases WriteOnce.mem_entries_insert he with he | rfl
        · exact h.selectors e he
        · exact ⟨hn, hs⟩
      field_options := fun e he => by
        rcases WriteOnce.mem_entries_insert he with he | rfl
        · exact h.field_options e he
        · exact ho }

/-- A template without fields is as well formed as its head. -/
theorem head_wellFormed (name : Text) {selector : Text} {o : OptionSet} (hn : selector ≠ [])
    (ht : Text.Trimmed selector) (ho : o.WellFormed) :
    (Template.addSectionOptions { name, selector } o).WellFormed where
  selector_ne_nil := hn
  selector_trimmed := ht
  selectors_nodup := List.nodup_nil
  options_nodup := List.nodup_nil
  has_options := by simp [Template.addSectionOptions]
  selectors := by simp [Template.addSectionOptions]
  field_options := by simp [Template.addSectionOptions]
  section_options := OptionSet.wellFormed_empty.insertAll ho

theorem addLines_invariant {t : Template} (h : t.WellFormed) (lines : List Fragment) :
    (addLines t lines).value.WellFormed ∧ (addLines t lines).value.name = t.name := by
  refine Noted.foldlM_invariant (fun u : Template => u.WellFormed ∧ u.name = t.name)
    (fun u line hu => ?_) _ ⟨h, rfl⟩
  have hs := addLine_step u line
  exact ⟨hs.wellFormed hu.1, hs.head.1.trans hu.2⟩

/-! ## Rules -/

/-- What holds of the template of items, where there is one. -/
def ItemsWellFormed (items : Option Template) : Prop :=
  ∀ t, items = some t → t.name = itemsName ∧ t.WellFormed

theorem itemTemplate?_wellFormed (b : Block) : ItemsWellFormed (itemTemplate? b).value := by
  unfold itemTemplate?
  by_cases hn : b.header.text = []
  · simp [hn, ItemsWellFormed]
  · intro t ht
    simp only [hn, if_false, Noted.value_bind, Noted.value_pure, Option.some.injEq] at ht
    have h := addLines_invariant
      (head_wellFormed itemsName hn (Text.trimmed_trim _) (trailerOptions_wellFormed b))
      (linesExcluding b.body ((scanBlocks .items b.body).blocks.map Block.hole))
    exact ht ▸ ⟨h.2, h.1⟩

theorem firstItems_wellFormed {found : Option Template} (h : ItemsWellFormed found)
    (blocks : List Block) : ItemsWellFormed (firstItems found blocks).value := by
  induction blocks generalizing found with
  | nil => exact h
  | cons b blocks ih =>
    cases found with
    | none => exact ih (itemTemplate?_wellFormed b)
    | some t => exact ih h

/-- Whatever stands in its body, a section that has a name and a selector makes a well formed
rule. -/
theorem sectionBody_wellFormed {t : Template} (h : t.WellFormed) (hn : t.name ≠ [])
    (hc : t.name.all isNameChar) (body : Fragment) : (sectionBody t body).value.WellFormed := by
  have hl := addLines_invariant h
  unfold sectionBody
  simp only [Noted.value_bind, Noted.value_pure]
  refine ⟨?_, ?_, (hl _).1, firstItems_wellFormed (fun _ h => by cases h) _⟩
  · rw [(hl _).2]
    exact hn
  · rw [(hl _).2]
    simpa [isNameChar, or_assoc] using hc

theorem sectionHead_trimmed (header : Text) : Text.Trimmed (sectionHead header).2 := by
  unfold sectionHead
  split
  · exact Text.trimmed_trim _
  · rfl

theorem section?_wellFormed {b : Block} {r : Rule} (h : (section? b).value = some r) :
    r.WellFormed := by
  unfold section? at h
  dsimp only at h
  split at h
  · cases h
  · rename_i hname
    split at h
    · cases h
    · rename_i hsel
      cases h
      obtain ⟨hn, hc⟩ := not_or.mp hname
      refine sectionBody_wellFormed (head_wellFormed _ hsel (sectionHead_trimmed _)
        (trailerOptions_wellFormed b)) hn ?_ _
      simpa [Template.addSectionOptions] using hc

theorem sections_wellFormed {f : Fragment} {r : Rule} (h : r ∈ (sections f).value) :
    r.WellFormed := by
  simp only [sections, Noted.value_bind, Noted.value_collect, List.mem_filterMap] at h
  obtain ⟨b, -, hb⟩ := h
  exact section?_wellFormed hb

/-! ## Scopes -/

theorem of_eq_ok {pattern : Text} {rules : List Rule} {s : PathScope}
    (h : PathScope.of pattern rules = .ok s) : s.pattern = pattern ∧ s.rules = rules := by
  unfold PathScope.of Glob.ofPattern at h
  split at h
  · cases h
    exact ⟨rfl, rfl⟩
  · cases h

/-- A path block makes a scope only for a new pattern that is not blank, and only with rules. -/
structure ScopeMade (scopes : List PathScope) (s : PathScope) : Prop where
  pattern_ne_nil : s.pattern ≠ []
  pattern_trimmed : Text.Trimmed s.pattern
  pattern_new : ∀ r ∈ scopes, r.pattern ≠ s.pattern
  rules_ne_nil : s.rules ≠ []
  rules : ∀ r ∈ s.rules, r.WellFormed

/-- A path block makes a scope only where its pattern is new and not empty and it has rules. -/
theorem scope?_made {scopes : List PathScope} {b : Block} {s : PathScope}
    (h : (scope? scopes b).value = some s) : ScopeMade scopes s := by
  unfold scope? at h
  dsimp only at h
  split at h
  · cases h
  · rename_i hn
    split at h
    · cases h
    · rename_i hnew
      simp only [Noted.value_bind] at h
      split at h
      · cases h
      · rename_i hr
        split at h
        · rename_i scope hs
          cases h
          obtain ⟨hp, hrules⟩ := of_eq_ok hs
          simp only [List.any_eq_true, beq_iff_eq, not_exists, not_and] at hnew
          exact {
            pattern_ne_nil := hp ▸ hn
            pattern_trimmed := hp ▸ Text.trimmed_trim _
            pattern_new := hp ▸ hnew
            rules_ne_nil := by simpa [hrules] using hr
            rules := fun r hr => sections_wellFormed (hrules ▸ hr) }
        · cases h

/-- What holds of the scopes of path blocks. -/
structure ScopesWellFormed (scopes : List PathScope) : Prop where
  nodup : (scopes.map (·.pattern)).Nodup
  patterns : ∀ s ∈ scopes, s.pattern ≠ [] ∧ Text.Trimmed s.pattern
  rules_ne_nil : ∀ s ∈ scopes, s.rules ≠ []
  rules : ∀ s ∈ scopes, ∀ r ∈ s.rules, r.WellFormed

theorem addScope_wellFormed {scopes : List PathScope} (h : ScopesWellFormed scopes) (b : Block) :
    ScopesWellFormed (addScope scopes b).value := by
  simp only [addScope, Noted.value_bind, Noted.value_pure]
  cases hs : (scope? scopes b).value with
  | none => simpa using h
  | some s =>
    have hm := scope?_made hs
    have hmem {p : PathScope → Prop} (ho : ∀ s ∈ scopes, p s) (hp : p s) :
        ∀ r ∈ scopes ++ [s], p r := by
      simpa [or_imp, forall_and] using ⟨ho, hp⟩
    exact {
      nodup := by
        rw [Option.toList, List.map_append, List.nodup_append]
        refine ⟨h.nodup, by simp, ?_⟩
        rintro _ hr _ ht rfl
        obtain ⟨r, hr, he⟩ := List.mem_map.mp hr
        exact hm.pattern_new r hr (he.trans (by simpa using ht))
      patterns := hmem h.patterns ⟨hm.pattern_ne_nil, hm.pattern_trimmed⟩
      rules_ne_nil := hmem h.rules_ne_nil hm.rules_ne_nil
      rules := hmem h.rules hm.rules }

theorem foldlM_addScope_wellFormed (blocks : List Block) :
    ScopesWellFormed (blocks.foldlM addScope []).value :=
  Noted.foldlM_invariant ScopesWellFormed (fun _ b h => addScope_wellFormed h b) _
    ⟨List.nodup_nil, by simp, by simp, by simp⟩

/-- The scopes of a text are the implicit one or those of its path blocks. -/
theorem scopes_cases (f : Fragment) :
    (∃ rules, (scopes f).value = [.catchAll rules] ∧ ∀ r ∈ rules, r.WellFormed) ∨
      ScopesWellFormed (scopes f).value := by
  unfold scopes
  dsimp only
  simp only [Noted.value_bind]
  split
  · exact .inl ⟨_, rfl, fun r hr => sections_wellFormed hr⟩
  · exact .inr (foldlM_addScope_wellFormed _)

/-- Every rule of every compiled scope is well formed. -/
theorem wellFormed_of_mem_scopes {raw : Text} {s : PathScope} (hs : s ∈ (compile raw).scopes)
    {r : Rule} (hr : r ∈ s.rules) : r.WellFormed := by
  rcases scopes_cases ⟨0, (normalize raw).text⟩ with ⟨rules, he, hw⟩ | hw
  · have hs : s ∈ [PathScope.catchAll rules] := he ▸ hs
    cases List.mem_singleton.mp hs
    exact hw r hr
  · exact hw.rules s hs r hr

/-- Whatever the text, what it compiles to is well formed. -/
theorem wellFormed_compile (raw : Text) : (compile raw).WellFormed := by
  rcases scopes_cases ⟨0, (normalize raw).text⟩ with ⟨rules, he, -⟩ | hw
  · have he : (compile raw).scopes = [.catchAll rules] := he
    exact {
      patterns_nodup := by simp [he]
      patterns := by
        rw [he]
        simp only [List.mem_singleton, forall_eq]
        exact (by decide : catchAllPattern ≠ [] ∧ Text.Trimmed catchAllPattern)
      inhabited := .inl ⟨rules, he⟩
      rules := fun s hs r hr => wellFormed_of_mem_scopes hs hr }
  · exact {
      patterns_nodup := hw.nodup
      patterns := hw.patterns
      inhabited := .inr hw.rules_ne_nil
      rules := fun s hs r hr => wellFormed_of_mem_scopes hs hr }

end RuleText
end PageRules
