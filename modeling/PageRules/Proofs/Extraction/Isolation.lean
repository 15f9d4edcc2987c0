import Mathlib
import PageRules.Proofs.Extraction.Outcome

/-!
# Rules do not disturb each other

What has a selector that cannot be read gives nothing, so leaving it out changes nothing
(`extract_readableRules`). And the hits of one rule among many are its hits alone
(`Hit.filter_order`), so its records are those that it has without the others.
-/

namespace PageRules

open Html (Element Document)

/-! ## What cannot be read -/

/-- The text spells a selector. -/
def isReadable (selector : Text) : Bool := (Css.Selector.read? selector).isSome

namespace Template

/-- The selector of the field can be read, if it has one. -/
def isReadableField (t : Template) (f : Field) : Bool := (t.fieldSelectors.get? f).all isReadable

/-- The template without the fields whose selectors cannot be read. -/
def readable (t : Template) : Template :=
  { t with
    fieldSelectors := t.fieldSelectors.filter (isReadable ·.2)
    fieldOptions := t.fieldOptions.filterKeys t.isReadableField }

end Template

/-- The rule without the fields and without the template whose selectors cannot be read. -/
def Rule.readable (r : Rule) : Rule :=
  { r with
    toTemplate := r.toTemplate.readable
    items := (r.items.filter (isReadable ·.selector)).map Template.readable }

/-- The rules whose selectors can be read, each with what can be read of it. -/
def readableRules (rules : List Rule) : List Rule :=
  (rules.filter (isReadable ·.selector)).map Rule.readable

namespace Template

variable {t : Template} {base : Option Url} {scope : Element} {f : Field} {selector : Text}

theorem optionsOf_readable (h : t.isReadableField f = true) :
    t.readable.optionsOf f = t.optionsOf f := by
  rw [optionsOf, optionsOf, readable, WriteOnce.get?_filterKeys h]

/-- A selector that cannot be read finds nothing, so its field has no value. -/
theorem extracted?_of_unreadable (h : isReadable selector = false) :
    t.extracted? base scope f selector = none := by
  rw [isReadable, Option.isSome_eq_false_iff, Option.isNone_iff_eq_none] at h
  simp only [extracted?, h, Option.map_none]

theorem extracted?_readable (h : t.isReadableField f = true) :
    t.readable.extracted? base scope f selector = t.extracted? base scope f selector := by
  unfold extracted?
  rw [optionsOf_readable h]

theorem isReadableField_of_mem (h : (f, selector) ∈ t.fieldSelectors.entries)
    (hs : isReadable selector = true) : t.isReadableField f = true := by
  rw [isReadableField, WriteOnce.get?_of_mem h]
  exact hs

/-- Leaving out the fields that cannot be read leaves the values as they were. -/
theorem valuesIn_readable : t.readable.valuesIn base scope = t.valuesIn base scope := by
  change (t.fieldSelectors.entries.filter (isReadable ·.2)).filterMap _ = _
  rw [List.filterMap_filter]
  refine List.filterMap_congr ?_
  rintro ⟨f, selector⟩ he
  cases hs : isReadable selector with
  | true => simp [extracted?_readable (isReadableField_of_mem he hs)]
  | false => simp [extracted?_of_unreadable hs]

/-- A field with a value has a selector that can be read. -/
theorem isReadableField_of_mem_valuesIn {value : Extracted}
    (h : (f, value) ∈ t.valuesIn base scope) : t.isReadableField f = true := by
  obtain ⟨⟨g, selector⟩, he, hv⟩ := List.mem_filterMap.mp h
  obtain ⟨x, hx, hfx⟩ := Option.map_eq_some_iff.mp hv
  cases hfx
  refine isReadableField_of_mem he ?_
  by_contra hs
  rw [extracted?_of_unreadable (by simpa using hs)] at hx
  cases hx

/-- The options of the fields that are left are not touched either. -/
theorem fieldValues_readable : t.readable.fieldValues base scope = t.fieldValues base scope := by
  rw [fieldValues, fieldValues, valuesIn_readable]
  refine List.map_congr_left ?_
  rintro ⟨f, value⟩ h
  simp only [optionsOf_readable (isReadableField_of_mem_valuesIn h)]

theorem overwritesField_readable :
    t.readable.overwritesField base scope = t.overwritesField base scope := by
  rw [overwritesField, overwritesField, valuesIn_readable]
  rw [Bool.eq_iff_iff, List.any_eq_true, List.any_eq_true]
  refine exists_congr ?_
  rintro ⟨f, value⟩
  refine and_congr_right fun h => ?_
  simp only [optionsOf_readable (isReadableField_of_mem_valuesIn h)]

theorem overwritesItems_readable :
    t.readable.overwritesItems base scope = t.overwritesItems base scope := by
  have hfields : t.readable.overwritesField base = t.overwritesField base :=
    funext fun _ => overwritesField_readable
  unfold overwritesItems
  rw [hfields]
  rfl

/-- The items are found by the selector of the template, which is kept. -/
theorem itemList?_readable : t.readable.itemList? base scope = t.itemList? base scope := by
  unfold itemList?
  simp only [fieldValues_readable]
  rfl

theorem itemList?_of_unreadable (h : isReadable t.selector = false) :
    t.itemList? base scope = none := by
  rw [isReadable, Option.isSome_eq_false_iff, Option.isNone_iff_eq_none] at h
  simp [itemList?, itemScopes, h]

theorem overwritesItems_of_unreadable (h : isReadable t.selector = false) :
    t.overwritesItems base scope = false := by
  rw [isReadable, Option.isSome_eq_false_iff, Option.isNone_iff_eq_none] at h
  simp [overwritesItems, itemScopes, h]

end Template

namespace Rule

variable (r : Rule) (base : Option Url) (e : Element)

theorem overwrites_readable : r.readable.overwrites base e = r.overwrites base e := by
  have hitems : r.readable.items.any (·.overwritesItems base e) =
      r.items.any (·.overwritesItems base e) := by
    cases ht : r.items with
    | none => simp [readable, ht]
    | some t =>
      cases hs : isReadable t.selector with
      | true => simp [readable, ht, Option.filter, hs, Template.overwritesItems_readable]
      | false => simp [readable, ht, Option.filter, hs, Template.overwritesItems_of_unreadable hs]
  rw [overwrites, hitems]
  exact congrArg (· || _) Template.overwritesField_readable

/-- The record of a rule does not show what was left out of the rule. -/
theorem recordOf_readable : r.readable.recordOf base e = r.recordOf base e := by
  have hitems : r.readable.items.bind (·.itemList? base e) = r.items.bind (·.itemList? base e) := by
    cases ht : r.items with
    | none => simp [readable, ht]
    | some t =>
      cases hs : isReadable t.selector with
      | true => simp [readable, ht, Option.filter, hs, Template.itemList?_readable]
      | false => simp [readable, ht, Option.filter, hs, Template.itemList?_of_unreadable hs]
  have hfields : r.readable.fieldValues base e = r.fieldValues base e :=
    Template.fieldValues_readable
  rw [recordOf, hitems, hfields]
  rfl

theorem keeps_readable (elements : List Element) (place : Nat) :
    r.readable.keeps elements e place = r.keeps elements e place := rfl

theorem isReadable_of_keeps {elements : List Element} {place : Nat}
    (h : r.keeps elements e place = true) : isReadable r.selector = true := by
  unfold keeps at h
  split at h
  · rename_i s hs
    rw [isReadable, hs]
    rfl
  · cases h

end Rule

/-- The walk passes by rules that cannot be read and meets all others as before. -/
theorem walk_readableRules (rules : List Rule) (elements : List Element) :
    walk (readableRules rules) elements =
      (walk rules elements).map fun (e, r) => (e, r.readable) := by
  unfold walk
  rw [List.map_flatMap]
  refine List.flatMap_congr ?_
  rintro ⟨e, place⟩ -
  have hkept : (readableRules rules).filter (·.keeps elements e place) =
      (rules.filter (·.keeps elements e place)).map Rule.readable := by
    rw [readableRules, List.filter_map, List.filter_filter]
    refine congrArg _ (List.filter_congr fun r _ => ?_)
    cases hk : r.keeps elements e place with
    | true => simp [Rule.keeps_readable, hk, r.isReadable_of_keeps e hk]
    | false => simp [Rule.keeps_readable, hk]
  simp only [hkept, List.map_map]
  rfl

/-- What cannot be read may be left out. -/
theorem extract_readableRules (base : Option Url) (rules : List Rule) (d : Document) :
    extract base (readableRules rules) d = extract base rules d := by
  rw [extract_eq_ite_walk, extract_eq_ite_walk, walk_readableRules, List.any_map, List.map_map]
  simp only [Function.comp_def, Rule.overwrites_readable, Rule.recordOf_readable]

/-! ## One rule among many -/

/-- The records that come from the hits of the rule at a place of the list. -/
def recordsOf (k : Nat) (hits : List Hit) (records : List Record) : List Record :=
  ((hits.zip records).filter (·.1.order = k)).map Prod.snd

theorem recordsOf_map (k : Nat) (f : Hit → Record) (hits : List Hit) :
    recordsOf k hits (hits.map f) = (hits.filter (·.order = k)).map f := by
  unfold recordsOf
  induction hits with
  | nil => rfl
  | cons h hits ih =>
    rw [List.map_cons, List.zip_cons_cons, List.filter_cons, List.filter_cons]
    split
    · rw [List.map_cons, ih, List.map_cons]
    · exact ih

variable {rules : List Rule} {k : Nat} {r : Rule}

/-- One rule has one order among the rules. -/
theorem filter_zipIdx (hr : rules[k]? = some r) :
    rules.zipIdx.filter (·.2 = k) = [(r, k)] := by
  have hmem : (r, k) ∈ rules.zipIdx := List.mem_zipIdx_iff_getElem?.mpr hr
  have hn : (rules.zipIdx.map Prod.snd).Nodup := List.zipIdx_map_snd 0 rules ▸ List.nodup_range'
  have h := filter_key_of_sublist (List.singleton_sublist.mpr hmem) hn
  simpa using h

/-- The hits of a rule among others are those of the rule alone. -/
theorem Hit.filter_order (elements : List Element) (hr : rules[k]? = some r) :
    ((Hit.all rules elements).filter (·.order = k)).map (fun h => (h.element, h.rule)) =
      PageRules.walk [r] elements := by
  rw [Hit.all_eq_walk, Hit.walk, PageRules.walk, List.filter_flatMap, List.map_flatMap]
  refine List.flatMap_congr ?_
  rintro ⟨e, place⟩ -
  have hrule : (rules.zipIdx.filter (·.1.keeps elements e place)).filter (·.2 = k) =
      [(r, k)].filter (·.1.keeps elements e place) := by
    rw [List.filter_filter, ← filter_zipIdx hr, List.filter_filter]
    exact List.filter_congr fun _ _ => Bool.and_comm ..
  calc
    _ = ((rules.zipIdx.filter (·.1.keeps elements e place)).filter (·.2 = k)).map
        fun kept => (e, kept.1) := by
      rw [List.filter_map, List.map_map]
      rfl
    _ = ([r].filter (·.keeps elements e place)).map (e, ·) := by
      rw [hrule]
      cases hk : r.keeps elements e place <;> simp [hk]

/-- What cannot be read may be left out of the rules. And where all rules are extracted, the records
of each are those that it has alone. -/
theorem extract_isolated (base : Option Url) (rules : List Rule) (d : Document) :
    extract base (readableRules rules) d = extract base rules d ∧
      ∀ records, extract base rules d = .ok records →
        records.length = (Hit.all rules d.body.subtree).length ∧
        ∀ k r, rules[k]? = some r →
          extract base [r] d = .ok (recordsOf k (Hit.all rules d.body.subtree) records) := by
  refine ⟨extract_readableRules base rules d, fun records h => ?_⟩
  obtain ⟨hclear, rfl⟩ := extract_eq_ok_iff.mp h
  refine ⟨List.length_map _, fun k r hr => ?_⟩
  rw [extract_eq_ite_walk, recordsOf_map, ← Hit.filter_order _ hr, List.any_map, List.map_map,
    if_neg]
  · rfl
  · rw [Bool.not_eq_true, List.any_eq_false]
    intro hit hm
    exact Bool.eq_false_iff.mp (hclear hit (List.mem_filter.mp hm).1)

/-- Notes with a field that cannot be read, a rule that cannot be read, and shelves. -/
def mixedRules : List Rule :=
  [(Rule.of "note".toList "p".toList).offerAll
      [.fieldSelector .text "p".toList, .fieldSelector .img "img:nth(".toList],
    .of "broken".toList "div[".toList, shelfRule]

theorem extract_isolated_mixedRules :
    ∃ records, extract none mixedRules shelfPage = .ok records ∧ mixedRules[2]? = some shelfRule ∧
      records.map (·.ruleName) = ["shelf".toList, "note".toList] ∧
      extract none [shelfRule] shelfPage =
        .ok (recordsOf 2 (Hit.all mixedRules shelfPage.body.subtree) records) := by
  have h : (extract none mixedRules shelfPage).map (·.map (·.ruleName)) =
      .ok ["shelf".toList, "note".toList] := by cbv
  cases he : extract none mixedRules shelfPage with
  | error e => rw [he] at h; cases h
  | ok records =>
    rw [he] at h
    have halone := ((extract_isolated none mixedRules shelfPage).2 records he).2 2 shelfRule rfl
    exact ⟨records, rfl, rfl, Except.ok.inj h, halone⟩

end PageRules
