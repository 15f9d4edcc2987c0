import Mathlib
import PageRules.Proofs.Extraction.Outcome

/-!
# When extraction is refused

The key `value` is refused where a value is wrapped with it: beside a field that has a value, around
a list of items, and beside a field of an item. `Rule.Overwriting` names these three cases in terms
of selectors, narrowed elements and their values, and extraction fails in them alone
(`extract_eq_error_iff`). The section options of a rule wrap nothing, so the key does no harm there.
-/

namespace PageRules

open Html (Element Document)

namespace Template

variable (t : Template) (base : Option Url) (scope : Element)

/-- The field has a value in the scope: its selector can be read, and of the elements that it finds
and the options of the field leave, one has a value. -/
def HasValue (f : Field) : Prop :=
  ∃ selector s, t.fieldSelectors.get? f = some selector ∧ Css.Selector.read? selector = some s ∧
    ∃ e ∈ slice (t.optionsOf f) (found s scope),
      ∃ text, valueOf base f (t.optionsOf f) e = some text

/-- The element is one of those that the items of the scope are read from: the selector of the
template can be read, and it finds the element, and the section options leave it. -/
def IsItemScope (child : Element) : Prop :=
  ∃ s, Css.Selector.read? t.selector = some s ∧ child ∈ slice t.sectionOptions (found s scope)

/-- The field has a value in the scope, and an option that would overwrite it. -/
def RefusesField (f : Field) : Prop :=
  t.HasValue base scope f ∧ (t.optionsOf f).contains OptionKey.value = true

end Template

/-- An option of the rule or of its template would overwrite a value of the record of the
element. -/
inductive Rule.Overwriting (r : Rule) (base : Option Url) (e : Element) : Prop where
  | field (f : Field) (h : r.RefusesField base e f)
  | items (t : Template) (child : Element) (ht : r.items = some t) (hc : t.IsItemScope e child)
    (h : t.sectionOptions.contains OptionKey.value = true)
  | itemField (t : Template) (child : Element) (ht : r.items = some t) (hc : t.IsItemScope e child)
    (f : Field) (h : t.RefusesField base child f)

/-- The rule without the key `value` among its own section options. -/
def Rule.withoutSectionValue (r : Rule) : Rule :=
  { r with sectionOptions := r.sectionOptions.filterKeys (· ≠ OptionKey.value) }

/-! ## Values -/

namespace Template

variable {t : Template} {base : Option Url} {scope : Element} {f : Field}

/-- A field is extracted where one of its elements has a value: from one element it is that value,
and from several the list of those there are. -/
theorem isSome_extracted?_iff {selector : Text} :
    (t.extracted? base scope f selector).isSome = true ↔
      ∃ s, Css.Selector.read? selector = some s ∧
        ∃ e ∈ slice (t.optionsOf f) (found s scope),
          ∃ text, valueOf base f (t.optionsOf f) e = some text := by
  unfold extracted?
  extract_lets value
  cases Css.Selector.read? selector with
  | none => simp
  | some s =>
    simp only [Option.map_some, Option.some.injEq, exists_eq_left']
    generalize slice (t.optionsOf f) (found s scope) = es
    have hvalues : (∃ e ∈ es, ∃ text, value e = some text) ↔ es.filterMap value ≠ [] := by
      simp [List.filterMap_eq_nil_iff, Option.ne_none_iff_exists']
    rw [hvalues]
    match es with
    | [] => simp
    | [e] => cases hv : value e <;> simp [hv]
    | e :: e' :: es =>
      dsimp only
      cases (e :: e' :: es).filterMap value <;> simp

/-- A field has a value in terms of its selector just where the template finds one. -/
theorem hasValue_iff : t.HasValue base scope f ↔ ∃ value, (f, value) ∈ t.valuesIn base scope := by
  constructor
  · rintro ⟨selector, s, hselector, hs⟩
    obtain ⟨value, hv⟩ := Option.isSome_iff_exists.mp (isSome_extracted?_iff.mpr ⟨s, hs⟩)
    refine ⟨value, List.mem_filterMap.mpr ⟨_, WriteOnce.mem_entries_of_get? hselector, ?_⟩⟩
    exact Option.map_eq_some_iff.mpr ⟨value, hv, rfl⟩
  · rintro ⟨value, hv⟩
    obtain ⟨⟨g, selector⟩, hentry, hg⟩ := List.mem_filterMap.mp hv
    obtain ⟨_, hx, ⟨⟩⟩ := Option.map_eq_some_iff.mp hg
    obtain ⟨s, hs⟩ := isSome_extracted?_iff.mp (Option.isSome_of_mem hx)
    exact ⟨selector, s, WriteOnce.get?_of_mem hentry, hs⟩

theorem overwritesField_iff :
    t.overwritesField base scope = true ↔ ∃ f, t.RefusesField base scope f := by
  simp only [overwritesField, List.any_eq_true, Prod.exists, RefusesField, hasValue_iff]
  exact exists_congr fun f => exists_and_right

theorem mem_itemScopes_iff {child : Element} :
    child ∈ t.itemScopes scope ↔ t.IsItemScope scope child := by
  unfold itemScopes IsItemScope
  cases Css.Selector.read? t.selector <;> simp

theorem overwritesItems_iff :
    t.overwritesItems base scope = true ↔
      ∃ child, t.IsItemScope scope child ∧
        (t.sectionOptions.contains OptionKey.value = true ∨
          ∃ f, t.RefusesField base child f) := by
  simp only [← mem_itemScopes_iff, ← overwritesField_iff]
  rw [overwritesItems, Bool.and_eq_true, Bool.or_eq_true, List.any_eq_true]
  constructor
  · rintro ⟨hne, ⟨child, hc, ho⟩ | ho⟩
    · exact ⟨child, hc, .inr ho⟩
    · obtain ⟨child, hc⟩ := List.exists_mem_of_ne_nil (t.itemScopes scope) (by simpa using hne)
      exact ⟨child, hc, .inl ho⟩
  · rintro ⟨child, hc, ho⟩
    refine ⟨by simpa using List.ne_nil_of_mem hc, ?_⟩
    exact ho.elim .inr fun ho => .inl ⟨child, hc, ho⟩

end Template

namespace Rule

variable {r : Rule} {base : Option Url} {e : Element}

/-- The test for the key holds in the three cases and in no other. -/
theorem overwrites_iff : r.overwrites base e = true ↔ r.Overwriting base e := by
  rw [overwrites, Bool.or_eq_true, Template.overwritesField_iff, Option.any_eq_true]
  simp only [Template.overwritesItems_iff]
  constructor
  · rintro (⟨f, h⟩ | ⟨t, ht, child, hc, h | ⟨f, h⟩⟩)
    · exact .field f h
    · exact .items t child ht hc h
    · exact .itemField t child ht hc f h
  · rintro (⟨f, h⟩ | ⟨t, child, ht, hc, h⟩ | ⟨t, child, ht, hc, f, h⟩)
    · exact .inl ⟨f, h⟩
    · exact .inr ⟨t, ht, child, hc, .inl h⟩
    · exact .inr ⟨t, ht, child, hc, .inr ⟨f, h⟩⟩

/-- The key among the options of a section refuses nothing. -/
theorem overwriting_withoutSectionValue :
    r.withoutSectionValue.Overwriting base e ↔ r.Overwriting base e := by
  rw [← overwrites_iff, ← overwrites_iff]
  rfl

theorem hits_withoutSectionValue (elements : List Element) :
    r.withoutSectionValue.hits elements = r.hits elements := by
  have hslice {α : Type} (l : List α) :
      slice (r.sectionOptions.filterKeys (· ≠ OptionKey.value)) l = slice r.sectionOptions l := by
    simp only [slice, OptionSet.integer?]
    rw [WriteOnce.get?_filterKeys (by decide), WriteOnce.get?_filterKeys (by decide)]
  simp only [hits, withoutSectionValue, hslice]

end Rule

/-! ## Extraction -/

/-- The hits of all rules are those of each. -/
theorem Hit.exists_all_iff {rules : List Rule} {elements : List Element}
    {p : Rule → Element → Prop} :
    (∃ h ∈ Hit.all rules elements, p h.rule h.element) ↔
      ∃ r ∈ rules, ∃ hit ∈ r.hits elements, p r hit.1 := by
  simp only [all, List.mem_mergeSort, List.mem_flatMap, List.mem_map]
  constructor
  · rintro ⟨_, ⟨⟨r, order⟩, hr, hit, hh, rfl⟩, hp⟩
    exact ⟨r, List.fst_mem_of_mem_zipIdx hr, hit, hh, hp⟩
  · rintro ⟨r, hr, hit, hh, hp⟩
    rw [← List.zipIdx_map_fst 0 rules] at hr
    obtain ⟨⟨r, order⟩, ho, rfl⟩ := List.mem_map.mp hr
    exact ⟨_, ⟨⟨r, order⟩, ho, hit, hh, rfl⟩, hp⟩

theorem extract_eq_error_iff_hits {base : Option Url} {rules : List Rule} {d : Document} :
    extract base rules d = .error {} ↔
      ∃ r ∈ rules, ∃ hit ∈ r.hits d.body.subtree, r.Overwriting base hit.1 := by
  rw [← Hit.exists_all_iff, extract_eq]
  simp only [← Rule.overwrites_iff, ← List.any_eq_true]
  cases (Hit.all rules d.body.subtree).any fun h => h.rule.overwrites base h.element <;> simp

/-- Extraction fails exactly if, for some rule and some element that its section options leave, an
option would overwrite a value of the record, and otherwise it gives records. The key `value` among
the section options of rules makes no difference to this. -/
theorem extract_eq_error_iff (base : Option Url) (rules : List Rule) (d : Document) :
    (extract base rules d = .error {} ↔
      ∃ r ∈ rules, ∃ hit ∈ r.hits d.body.subtree, r.Overwriting base hit.1) ∧
    ((¬ ∃ r ∈ rules, ∃ hit ∈ r.hits d.body.subtree, r.Overwriting base hit.1) →
      ∃ records, extract base rules d = .ok records) ∧
    (extract base (rules.map Rule.withoutSectionValue) d = .error {} ↔
      extract base rules d = .error {}) := by
  refine ⟨extract_eq_error_iff_hits, fun h => ?_, ?_⟩
  · rw [← extract_eq_error_iff_hits] at h
    cases hx : extract base rules d with
    | error e => exact absurd hx h
    | ok records => exact ⟨records, rfl⟩
  · rw [extract_eq_error_iff_hits, extract_eq_error_iff_hits]
    simp only [List.mem_map, exists_exists_and_eq_and, Rule.hits_withoutSectionValue,
      Rule.overwriting_withoutSectionValue]

/-- The key is refused beside the titles of the books, and does no harm beside the section. -/
example :
    let titles := (Rule.of "shelf".toList "ul".toList).offer (.fieldSelector .text "a".toList)
    let value : OptionSet := .ofList [(OptionKey.value, .flag true)]
    extract none [titles.offer (.fieldOptions .text value)] shelfPage = .error {} ∧
      (extract none [titles.offer (.sectionOptions value)] shelfPage).map List.length = .ok 2 :=
  ⟨by cbv, by cbv⟩

end PageRules
