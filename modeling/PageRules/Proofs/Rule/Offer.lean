import Mathlib
import PageRules.Proofs.WriteOnce
import PageRules.Rule.Basic

/-!
# Rules built from offers

A rule is built by offering it one thing after another. Every slot of it keeps what was offered for
it first (`offerAll_firstOffers`). What a rule does with one offer is said once for each slot, and
what it has after many follows: a slot that takes the entries of one offer takes those of all.
-/

namespace PageRules

open WriteOnce (firstEntries)

namespace Rule

/-! ## What is offered -/

namespace Offer

/-- The selector that is offered, with its field. -/
def selectors : Offer → List (Field × Text)
  | .fieldSelector f selector => [(f, selector)]
  | _ => []

/-- The option set that is offered, with its field. -/
def options : Offer → List (Field × OptionSet)
  | .fieldOptions f options => [(f, options)]
  | _ => []

/-- The rule that is offered as a template of items. -/
def rules : Offer → List Rule
  | .items rule => [rule]
  | _ => []

/-- The options that are offered for the section. -/
def sectionEntries : Offer → List (Text × OptionValue)
  | .sectionOptions options => options.entries
  | _ => []

end Offer

/-- The template of the first rule that has no items of its own. -/
def firstTemplate? (rules : List Rule) : Option Template :=
  (rules.find? (·.items.isNone)).map toTemplate

/-! ## One offer -/

variable (r : Rule) (o : Offer)

/-- What a rule does not take leaves it as it is. -/
theorem offer_of_not_accepts (h : r.accepts o = false) : r.offer o = r := by
  cases o with
  | fieldSelector f selector =>
    have hslot : r.fieldSelectors.insert f selector = r.fieldSelectors :=
      WriteOnce.insert_of_contains (by simpa [accepts] using h)
    simp only [offer, Template.addFieldSelector, hslot]
  | fieldOptions f options =>
    have hslot : r.fieldOptions.insert f options = r.fieldOptions :=
      WriteOnce.insert_of_contains (by simpa [accepts] using h)
    simp only [offer, Template.addFieldOptions, hslot]
  | items rule => exact if_neg (Bool.eq_false_iff.mp h)
  | sectionOptions options => cases h

theorem toTemplate_offer_items (rule : Rule) :
    (r.offer (.items rule)).toTemplate = r.toTemplate := by
  rw [offer]
  split <;> rfl

theorem name_offer : (r.offer o).name = r.name := by
  cases o with
  | items rule => rw [toTemplate_offer_items]
  | _ => rfl

theorem selector_offer : (r.offer o).selector = r.selector := by
  cases o with
  | items rule => rw [toTemplate_offer_items]
  | _ => rfl

/-- The selectors of one offer are put in behind those that the rule has, where they are new. -/
theorem fieldSelectors_offer :
    (r.offer o).fieldSelectors = r.fieldSelectors.insertAll o.selectors := by
  cases o with
  | items rule => rw [toTemplate_offer_items]; rfl
  | _ => rfl

theorem fieldOptions_offer : (r.offer o).fieldOptions = r.fieldOptions.insertAll o.options := by
  cases o with
  | items rule => rw [toTemplate_offer_items]; rfl
  | _ => rfl

theorem sectionOptions_offer :
    (r.offer o).sectionOptions = r.sectionOptions.insertAll o.sectionEntries := by
  cases o with
  | items rule => rw [toTemplate_offer_items]; rfl
  | _ => rfl

/-- The items of a rule are those that it had, or else those that the offer brings. -/
theorem items_offer : (r.offer o).items = r.items.or (firstTemplate? o.rules) := by
  cases o with
  | items rule =>
    cases hr : r.items with
    | some t => simp [offer, hr]
    | none => cases hn : rule.items <;> simp [offer, firstTemplate?, Offer.rules, hr, hn]
  | _ => exact (Option.or_none).symm

/-! ## Many offers -/

variable (offers : List Offer)

/-- What no offer changes stays as it is. -/
theorem offerAll_eq_of_offer {β : Type} (part : Rule → β) (h : ∀ r o, part (offer r o) = part r) :
    part (r.offerAll offers) = part r := by
  induction offers generalizing r with
  | nil => rfl
  | cons o offers ih => exact (ih (r.offer o)).trans (h r o)

/-- A slot that takes the entries of each offer takes those of all in order. -/
theorem offerAll_eq_insertAll {κ α : Type} [DecidableEq κ] (slot : Rule → WriteOnce κ α)
    {entries : Offer → List (κ × α)}
    (h : ∀ r o, slot (offer r o) = (slot r).insertAll (entries o)) :
    slot (r.offerAll offers) = (slot r).insertAll (offers.flatMap entries) := by
  induction offers generalizing r with
  | nil => rfl
  | cons o offers ih =>
    rw [List.flatMap_cons, WriteOnce.insertAll_append, ← h]
    exact ih (r.offer o)

theorem name_offerAll : (r.offerAll offers).name = r.name :=
  r.offerAll_eq_of_offer offers (·.name) name_offer

theorem selector_offerAll : (r.offerAll offers).selector = r.selector :=
  r.offerAll_eq_of_offer offers (·.selector) selector_offer

theorem fieldSelectors_offerAll :
    (r.offerAll offers).fieldSelectors =
      r.fieldSelectors.insertAll (offers.flatMap Offer.selectors) :=
  r.offerAll_eq_insertAll offers (·.fieldSelectors) fieldSelectors_offer

theorem fieldOptions_offerAll :
    (r.offerAll offers).fieldOptions = r.fieldOptions.insertAll (offers.flatMap Offer.options) :=
  r.offerAll_eq_insertAll offers (·.fieldOptions) fieldOptions_offer

theorem sectionOptions_offerAll :
    (r.offerAll offers).sectionOptions =
      r.sectionOptions.insertAll (offers.flatMap Offer.sectionEntries) :=
  r.offerAll_eq_insertAll offers (·.sectionOptions) sectionOptions_offer

/-- The first template among more rules is the first of the former, if they have one. -/
theorem firstTemplate?_append (rules more : List Rule) :
    firstTemplate? (rules ++ more) = (firstTemplate? rules).or (firstTemplate? more) := by
  rw [firstTemplate?, List.find?_append, Option.map_or]
  rfl

theorem items_offerAll :
    (r.offerAll offers).items = r.items.or (firstTemplate? (offers.flatMap Offer.rules)) := by
  induction offers generalizing r with
  | nil => exact (Option.or_none).symm
  | cons o offers ih =>
    rw [List.flatMap_cons, firstTemplate?_append, ← Option.or_assoc, ← items_offer]
    exact ih (r.offer o)

/-- A first template was offered as a rule without items. -/
theorem mem_of_firstTemplate? {offers : List Offer} {t : Template}
    (h : firstTemplate? (offers.flatMap Offer.rules) = some t) :
    Offer.items { toTemplate := t } ∈ offers := by
  obtain ⟨rule, hfind, rfl⟩ := Option.map_eq_some_iff.mp h
  obtain ⟨o, ho, hrule⟩ := List.mem_flatMap.mp (List.mem_of_find?_eq_some hfind)
  have hnone : rule.items = none := by simpa using List.find?_some hfind
  cases o with
  | items offered =>
    obtain rfl := List.mem_singleton.mp hrule
    rwa [← hnone]
  | _ => cases hrule

/-- In every slot the rule has what was offered for it first. The fields come in the order of their
first offers; the template of items is the first one without items of its own, so templates are
never nested; and of the section's options each key keeps its first value. -/
structure KeepsFirst (r : Rule) (offers : List Offer) : Prop where
  fieldSelectors : r.fieldSelectors.entries = firstEntries (offers.flatMap Offer.selectors)
  selector_of_field : ∀ f, r.fieldSelectors.get? f = (offers.flatMap Offer.selectors).lookup f
  fieldOptions : r.fieldOptions.entries = firstEntries (offers.flatMap Offer.options)
  options_of_field : ∀ f, r.fieldOptions.get? f = (offers.flatMap Offer.options).lookup f
  items : r.items = firstTemplate? (offers.flatMap Offer.rules)
  items_offered : ∀ t ∈ r.items, Offer.items { toTemplate := t } ∈ offers
  sectionOptions : r.sectionOptions.entries = firstEntries (offers.flatMap Offer.sectionEntries)

theorem keepsFirst_offerAll (name selector : Text) :
    ((Rule.of name selector).offerAll offers).KeepsFirst offers := by
  have hselectors : ((Rule.of name selector).offerAll offers).fieldSelectors =
      .ofList (offers.flatMap Offer.selectors) := fieldSelectors_offerAll _ offers
  have hoptions : ((Rule.of name selector).offerAll offers).fieldOptions =
      .ofList (offers.flatMap Offer.options) := fieldOptions_offerAll _ offers
  have hsection : ((Rule.of name selector).offerAll offers).sectionOptions =
      .ofList (offers.flatMap Offer.sectionEntries) := sectionOptions_offerAll _ offers
  have hitems : ((Rule.of name selector).offerAll offers).items =
      firstTemplate? (offers.flatMap Offer.rules) := items_offerAll _ offers
  exact {
    fieldSelectors := hselectors ▸ WriteOnce.entries_ofList _
    selector_of_field := fun f => hselectors ▸ WriteOnce.get?_ofList _ f
    fieldOptions := hoptions ▸ WriteOnce.entries_ofList _
    options_of_field := fun f => hoptions ▸ WriteOnce.get?_ofList _ f
    items := hitems
    items_offered := fun t ht => mem_of_firstTemplate? (hitems ▸ ht)
    sectionOptions := hsection ▸ WriteOnce.entries_ofList _ }

/-- An offer that a rule does not accept leaves it as it was, and a rule that was built has, under
its name and with its selector, what was offered first. -/
theorem offerAll_firstOffers (name selector : Text) (offers : List Offer) :
    (∀ (r : Rule) (o : Offer), r.accepts o = false → r.offer o = r) ∧
    ((Rule.of name selector).offerAll offers).name = name ∧
    ((Rule.of name selector).offerAll offers).selector = selector ∧
    ((Rule.of name selector).offerAll offers).KeepsFirst offers := by
  refine ⟨fun r o => r.offer_of_not_accepts o, ?_, ?_, keepsFirst_offerAll offers name selector⟩
  · exact name_offerAll (Rule.of name selector) offers
  · exact selector_offerAll (Rule.of name selector) offers

/-- A template with items is refused, and the next one taken; of the options of the section, the
second value of a key is dropped. -/
example :
    let plain := Rule.of "items".toList "li".toList
    let nested := plain.offer (.items (Rule.of "items".toList "b".toList))
    let r := (Rule.of "shelf".toList "ul".toList).offerAll
      [.items nested, .sectionOptions (.ofList [(['a'], .flag true)]), .items plain,
        .sectionOptions (.ofList [(['b'], .integer 1), (['a'], .flag false)])]
    r.items = some plain.toTemplate ∧
      r.sectionOptions.entries = [(['a'], .flag true), (['b'], .integer 1)] := by decide

end Rule
end PageRules
