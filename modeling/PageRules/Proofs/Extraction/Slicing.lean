import Mathlib
import PageRules.Proofs.Extraction.Outcome

/-!
# Narrowing the output

An element that a rule finds gives one record, and one that a template finds gives one item, also
where there is nothing in it. So it makes no difference whether elements are narrowed by `index` and
`limit` or what is built from all of them: `extract_unsliced` says so of a rule's records and of the
items inside each.
-/

namespace PageRules

open Html (Element Document)

/-! ## Options that narrow -/

/-- The option narrows candidates. -/
def OptionKey.narrows (key : Text) : Bool := key == index || key == limit

theorem OptionKey.steers_of_narrows {key : Text} (h : narrows key = true) : steers key = true := by
  rw [narrows, Bool.or_eq_true, beq_iff_eq, beq_iff_eq] at h
  rcases h with rfl | rfl <;> decide

namespace OptionSet

/-- The options without those that narrow candidates. -/
def unsliced (o : OptionSet) : OptionSet := o.filterKeys (!OptionKey.narrows ·)

variable (o : OptionSet)

/-- Without `index` and `limit` all is kept. -/
theorem slice_unsliced {α : Type} (l : List α) : slice (unsliced o) l = l := by
  have hindex : integer? (unsliced o) OptionKey.index = none := by
    rw [integer?, unsliced, WriteOnce.get?_filterKeys_of_not (by decide)]
  have hlimit : integer? (unsliced o) OptionKey.limit = none := by
    rw [integer?, unsliced, WriteOnce.get?_filterKeys_of_not (by decide)]
  rw [slice, hindex, hlimit]
  rfl

/-- Options that narrow are not copied into the output, so none is missed there. -/
theorem passthrough_unsliced : passthrough (unsliced o) = passthrough o := by
  refine WriteOnce.ext ?_
  change (o.entries.filter _).filter _ = o.entries.filter _
  rw [List.filter_filter]
  refine List.filter_congr fun e _ => ?_
  cases hn : OptionKey.narrows e.1 with
  | true => simp [hn, OptionKey.steers_of_narrows hn]
  | false => simp [hn]

theorem contains_value_unsliced :
    (unsliced o).contains OptionKey.value = o.contains OptionKey.value := by
  rw [← Tagged.any_passthrough_eq_value, passthrough_unsliced, Tagged.any_passthrough_eq_value]

end OptionSet

theorem pick_eq_nil_iff {α : Type} {index : Option Int} {l : List α} :
    pick index l = [] ↔ l = [] := by
  unfold pick
  split
  · split
    · rename_i a ha
      simp only [List.cons_ne_self, false_iff]
      exact List.ne_nil_of_mem (List.mem_of_getElem? ha)
    · rfl
  · rfl

theorem truncate_eq_nil_iff {α : Type} {limit : Option Int} {l : List α} :
    truncate limit l = [] ↔ l = [] := by
  unfold truncate
  split <;> simp

/-- Some candidate is always left. -/
theorem slice_eq_nil_iff {α : Type} {o : OptionSet} {l : List α} : slice o l = [] ↔ l = [] := by
  rw [slice, truncate_eq_nil_iff, pick_eq_nil_iff]

/-! ## Items -/

namespace Template

/-- The template without the section options that narrow what it finds. -/
def unsliced (t : Template) : Template := { t with sectionOptions := t.sectionOptions.unsliced }

variable (t : Template) (base : Option Url) (scope : Element)

/-- The options of a template narrow the elements that its items are made of. -/
theorem itemScopes_eq_slice :
    t.itemScopes scope = slice t.sectionOptions (t.unsliced.itemScopes scope) := by
  unfold itemScopes unsliced
  cases Css.Selector.read? t.selector with
  | none => simp
  | some s => simp [OptionSet.slice_unsliced]

end Template

/-- The list is narrowed, and all that is wrapped around it stays. -/
def Tagged.sliced {α : Type} (o : OptionSet) (t : Tagged (List α)) : Tagged (List α) :=
  { t with value := t.value.map (slice o) }

/-- Narrowing the elements narrows the list of items, whose wrapping stays. -/
theorem Template.itemList?_eq_sliced (t : Template) (base : Option Url) (scope : Element) :
    t.itemList? base scope =
      (t.unsliced.itemList? base scope).map (Tagged.sliced t.sectionOptions) := by
  have hempty : (t.itemScopes scope).isEmpty = (t.unsliced.itemScopes scope).isEmpty := by
    rw [Bool.eq_iff_iff, List.isEmpty_iff, List.isEmpty_iff, itemScopes_eq_slice, slice_eq_nil_iff]
  unfold itemList?
  rw [hempty]
  split
  · rfl
  · rw [itemScopes_eq_slice, Option.map_some, Tagged.wrap, Tagged.wrap, Tagged.sliced,
      Option.map_some, slice_map]
    exact congrArg (fun o => some (Tagged.mk _ o)) (OptionSet.passthrough_unsliced _).symm

/-! ## Records -/

namespace Rule

/-- The rule without the section options that narrow what it finds. -/
def unsliced (r : Rule) : Rule := { r with toTemplate := r.toTemplate.unsliced }

/-- The rule with its template in place of its items. -/
def withItems (r : Rule) (t : Template) : Rule := { r with items := some t }

variable (r : Rule) (base : Option Url) (e : Element)

/-- The options that narrow the hits of a rule do not show in a record. -/
theorem recordOf_unsliced : r.unsliced.recordOf base e = r.recordOf base e := by
  have hmetadata : r.unsliced.metadata = r.metadata := by
    have hoptions : r.unsliced.sectionOptions.passthrough = r.sectionOptions.passthrough :=
      OptionSet.passthrough_unsliced r.sectionOptions
    rw [metadata, metadata, hoptions]
  rw [recordOf, hmetadata]
  rfl

/-- The hits of a rule are a slice of all its matches. -/
theorem hits_eq_slice (elements : List Element) :
    r.hits elements = slice r.sectionOptions (r.unsliced.hits elements) := by
  unfold hits unsliced Template.unsliced
  cases Css.Selector.read? r.selector with
  | none => simp
  | some s => simp [OptionSet.slice_unsliced]

end Rule

/-- The items of the record are narrowed, and all else stays. -/
def Record.sliceItems (o : OptionSet) (record : Record) : Record :=
  { record with items := record.items.map (Tagged.sliced o) }

/-- Only the items of a record change with what narrows them. -/
theorem Rule.recordOf_eq_sliceItems {r : Rule} {t : Template} (ht : r.items = some t)
    (base : Option Url) (e : Element) :
    r.recordOf base e =
      ((r.withItems t.unsliced).recordOf base e).sliceItems t.sectionOptions := by
  have hitems : r.items.bind (·.itemList? base e) =
      (t.unsliced.itemList? base e).map (Tagged.sliced t.sectionOptions) := by
    rw [ht]
    exact t.itemList?_eq_sliced base e
  rw [recordOf, hitems]
  rfl

/-- A single rule walks over its hits. -/
theorem walk_singleton (r : Rule) (elements : List Element) :
    walk [r] elements = (r.hits elements).map fun hit => (hit.1, r) := by
  rw [Rule.hits_eq_filter, Hit.map_filter_eq_flatMap, walk]
  refine List.flatMap_congr ?_
  rintro ⟨e, place⟩ -
  cases hk : r.keeps elements e place <;> simp [hk]

/-! ## Rules that leave values alone -/

/-- No option of the template would overwrite a value. -/
structure Template.LeavesValues (t : Template) : Prop where
  field_options : ∀ e ∈ t.fieldOptions.entries, e.2.contains OptionKey.value = false
  section_options : t.sectionOptions.contains OptionKey.value = false

/-- No option of the rule or of its template would overwrite a value. -/
structure Rule.LeavesValues (r : Rule) : Prop where
  template : r.toTemplate.LeavesValues
  items : ∀ t ∈ r.items, t.LeavesValues

namespace Template.LeavesValues

variable {t : Template}

theorem unsliced (h : t.LeavesValues) : t.unsliced.LeavesValues where
  field_options := h.field_options
  section_options := (OptionSet.contains_value_unsliced _).trans h.section_options

theorem optionsOf (h : t.LeavesValues) (f : Field) :
    (t.optionsOf f).contains OptionKey.value = false :=
  WriteOnce.forall_getD (p := fun o : OptionSet => o.contains OptionKey.value = false) rfl
    h.field_options f

theorem overwritesField (h : t.LeavesValues) (base : Option Url) (scope : Element) :
    t.overwritesField base scope = false :=
  List.any_eq_false.mpr fun e _ => Bool.eq_false_iff.mp (h.optionsOf e.1)

theorem overwritesItems (h : t.LeavesValues) (base : Option Url) (scope : Element) :
    t.overwritesItems base scope = false := by
  have hitems : (t.itemScopes scope).any (t.overwritesField base) = false :=
    List.any_eq_false.mpr fun e _ => Bool.eq_false_iff.mp (h.overwritesField base e)
  rw [Template.overwritesItems, hitems, h.section_options, Bool.or_self, Bool.and_false]

end Template.LeavesValues

namespace Rule.LeavesValues

variable {r : Rule}

theorem unsliced (h : r.LeavesValues) : r.unsliced.LeavesValues := ⟨h.template.unsliced, h.items⟩

theorem withItems (h : r.LeavesValues) {t : Template} (ht : t.LeavesValues) :
    (r.withItems t).LeavesValues :=
  ⟨h.template, fun _ hu => Option.some.inj hu ▸ ht⟩

theorem overwrites (h : r.LeavesValues) (base : Option Url) (e : Element) :
    r.overwrites base e = false := by
  have hitems : r.items.any (·.overwritesItems base e) = false := by
    cases ht : r.items with
    | none => rfl
    | some t => exact (h.items t ht).overwritesItems base e
  rw [Rule.overwrites, h.template.overwritesField, hitems, Bool.or_self]

/-- Such a rule alone has a record of every hit. -/
theorem extract_singleton (h : r.LeavesValues) (base : Option Url) (d : Document) :
    extract base [r] d = .ok ((r.hits d.body.subtree).map fun hit => r.recordOf base hit.1) := by
  rw [extract_eq_ite_walk, walk_singleton, List.any_map, List.map_map, if_neg]
  · rfl
  · rw [Bool.not_eq_true, List.any_eq_false]
    exact fun hit _ => Bool.eq_false_iff.mp (h.overwrites base hit.1)

end Rule.LeavesValues

/-- The records of a rule that overwrites nothing are those without its `index` and `limit`,
narrowed by them; and its items are, record by record, those without the `index` and `limit` of its
template, narrowed by these. -/
theorem extract_unsliced (base : Option Url) (d : Document) {r : Rule} (h : r.LeavesValues) :
    (∃ records, extract base [r.unsliced] d = .ok records ∧
      extract base [r] d = .ok (slice r.sectionOptions records)) ∧
    ∀ t, r.items = some t → ∃ records, extract base [r.withItems t.unsliced] d = .ok records ∧
      extract base [r] d = .ok (records.map (Record.sliceItems t.sectionOptions)) := by
  constructor
  · refine ⟨_, h.unsliced.extract_singleton base d, ?_⟩
    simp only [h.extract_singleton base d, Rule.recordOf_unsliced, slice_map, ← Rule.hits_eq_slice]
  · intro t ht
    refine ⟨_, (h.withItems (h.items t ht).unsliced).extract_singleton base d, ?_⟩
    rw [h.extract_singleton base d, List.map_map]
    simp only [Rule.recordOf_eq_sliceItems ht]
    rfl

theorem extract_unsliced_shelfRule :
    shelfRule.LeavesValues ∧
      (∃ records, extract none [shelfRule.unsliced] shelfPage = .ok records ∧ records.length = 2 ∧
        extract none [shelfRule] shelfPage = .ok (slice shelfRule.sectionOptions records)) ∧
      ∃ t records, shelfRule.items = some t ∧
        extract none [shelfRule.withItems t.unsliced] shelfPage = .ok records ∧
        extract none [shelfRule] shelfPage =
          .ok (records.map (Record.sliceItems t.sectionOptions)) := by
  have h : shelfRule.LeavesValues := by
    refine ⟨⟨by decide, by decide⟩, fun t ht => ?_⟩
    cases ht
    exact ⟨by decide, by decide⟩
  obtain ⟨⟨records, hr, hslice⟩, hitems⟩ := extract_unsliced none shelfPage h
  have hlength : (extract none [shelfRule.unsliced] shelfPage).map List.length = .ok 2 := by cbv
  rw [hr] at hlength
  obtain ⟨narrowed, hn, hmap⟩ := hitems _ rfl
  exact ⟨h, ⟨records, hr, Except.ok.inj hlength, hslice⟩, _, narrowed, rfl, hn, hmap⟩

end PageRules
