import Mathlib
import PageRules.Proofs.Extraction.Outcome
import PageRules.Proofs.Text.Case
import PageRules.Proofs.Transform
import PageRules.Proofs.Url.Sound

/-!
# Extracted values are never blank

What is read from an element is trimmed, every transform leaves a trimmed text trimmed, and what is
then empty is no value. So no text of a record is blank (`fills_extract`). A joined address is no
exception: the URL that it is joined to was read.
-/

namespace PageRules

open Text (Trimmed Solid)
open Html (Element Document)

/-! ## Transforms -/

/-- The address of a list in a shop. -/
def shelfAddress : Url where
  scheme := "app".toList
  authority := none
  path := .segments ["shop".toList, "list".toList]

namespace Transform

variable {base : Option Url} {value : Text}

/-- A joined address is written by the URL that it was read into; one that cannot be joined stays as
it was. -/
theorem trimmed_urlJoined (hb : ∀ b ∈ base, b.Sound) (hv : Trimmed value) :
    Trimmed (urlJoined base value) := by
  obtain h | ⟨b, hmem, joined, hj, h⟩ := urlJoined_cases base value
  · rwa [h]
  · rw [h]
    exact ((hb b hmem).join hj).trimmed_render

theorem trimmed_apply (hb : ∀ b ∈ base, b.Sound) (hv : Trimmed value) (t : Transform) :
    Trimmed (t.apply base value) := by
  cases t with
  | trim => exact Text.trimmed_trim value
  | upper => exact Text.trimmed_toUpper hv
  | lower => exact Text.trimmed_toLower hv
  | urlJoin => exact trimmed_urlJoined hb hv

/-- Transforms in a row leave a trimmed text trimmed, also with names among them that no transform
has. -/
theorem trimmed_applyAll (hb : ∀ b ∈ base, b.Sound) (hv : Trimmed value) (names : List Text) :
    Trimmed (applyAll base names value) := by
  induction names generalizing value with
  | nil => exact hv
  | cons name names ih =>
    refine ih ?_
    dsimp only
    split
    · exact trimmed_apply hb hv _
    · exact hv

example :
    applyAll (some shelfAddress) ["upper".toList, "url-join".toList] "?a=1".toList =
      "app:/shop/list?A=1".toList := by decide +kernel

end Transform

/-! ## Values -/

/-- The text is not empty, and it neither begins nor ends with white space. -/
def Text.Filled (t : Text) : Prop := t ≠ [] ∧ Trimmed t

/-- The text is filled, or there are texts and each of them is. -/
def Extracted.Filled : Extracted → Prop
  | .one t => t.Filled
  | .many ts => ts ≠ [] ∧ ∀ t ∈ ts, t.Filled

theorem trimmed_visibleText (e : Element) : Trimmed (visibleText e) :=
  Text.trimmed_join fun _ hw => ⟨(Text.solid_of_mem_words hw).trimmed, Text.mem_words hw⟩

theorem trimmed_of_firstAttribute? {names : List Text} {e : Element} {t : Text}
    (h : firstAttribute? names e = some t) : Trimmed t := by
  obtain ⟨name, -, hname⟩ := List.exists_of_findSome?_eq_some h
  obtain ⟨hvalue, -⟩ := Option.filter_eq_some_iff.mp hname
  obtain ⟨written, -, rfl⟩ := Option.map_eq_some_iff.mp hvalue
  exact Text.trimmed_trim written

/-- Whichever way a field is read from an element, its value is trimmed before any transform. -/
theorem trimmed_of_rawValue {f : Field} {o : OptionSet} {e : Element} {t : Text}
    (h : rawValue f o e = some t) : Trimmed t := by
  unfold rawValue at h
  split at h
  · cases h
    exact trimmed_visibleText e
  · exact trimmed_of_firstAttribute? h

section

variable {base : Option Url} (hb : ∀ b ∈ base, b.Sound)
include hb

/-- A value that is empty after its transforms is dropped, so what is left is filled. -/
theorem filled_of_valueOf {f : Field} {o : OptionSet} {e : Element} {t : Text}
    (h : valueOf base f o e = some t) : t.Filled := by
  obtain ⟨hvalue, hne⟩ := Option.filter_eq_some_iff.mp h
  obtain ⟨raw, hraw, rfl⟩ := Option.map_eq_some_iff.mp hvalue
  exact ⟨of_decide_eq_true hne, Transform.trimmed_applyAll hb (trimmed_of_rawValue hraw) _⟩

theorem Template.filled_of_extracted? {t : Template} {scope : Element} {f : Field} {selector : Text}
    {value : Extracted} (h : t.extracted? base scope f selector = some value) : value.Filled := by
  unfold extracted? at h
  extract_lets valueIn at h
  split at h
  · cases h
  · obtain ⟨one, hone, rfl⟩ := Option.map_eq_some_iff.mp h
    exact filled_of_valueOf hb hone
  · rename_i elements _ _
    split at h
    · cases h
    · rename_i hne
      cases h
      refine ⟨hne, fun one hone => ?_⟩
      obtain ⟨e, -, he⟩ := List.mem_filterMap.mp hone
      exact filled_of_valueOf hb he

end

/-! ## Records -/

/-- The fields are among those of the template, in the order of their declaration and each at most
once, and every one has a filled value. -/
structure Template.Fills (t : Template) (fields : FieldValues) : Prop where
  order : (fields.map Prod.fst).Sublist t.fieldSelectors.keys
  nodup : (fields.map Prod.fst).Nodup
  filled : ∀ field ∈ fields, ∃ value, field.2.value = some value ∧ value.Filled

/-- The fields of the record are filled; if it has items, then there are some, and the fields of
each are filled. -/
structure Rule.Fills (r : Rule) (record : Record) : Prop where
  fields : r.toTemplate.Fills record.fields
  items : ∀ l ∈ record.items, ∃ t items, r.items = some t ∧ l.value = some items ∧ items ≠ [] ∧
    ∀ i ∈ items, t.Fills i.fields

section

variable {base : Option Url} (hb : ∀ b ∈ base, b.Sound)
include hb

/-- The fields of a template are in its own order, each with values that are filled. -/
theorem Template.fills_fieldValues (t : Template) (scope : Element) :
    t.Fills (t.fieldValues base scope) := by
  refine ⟨t.fieldValues_sublist base scope, t.nodup_fieldValues base scope, fun field hf => ?_⟩
  obtain ⟨⟨f, value⟩, hv, rfl⟩ := List.mem_map.mp hf
  obtain ⟨⟨g, selector⟩, -, he⟩ := List.mem_filterMap.mp hv
  obtain ⟨value, hx, ⟨⟩⟩ := Option.map_eq_some_iff.mp he
  exact ⟨value, rfl, filled_of_extracted? hb hx⟩

theorem Rule.fills_recordOf (r : Rule) (e : Element) : r.Fills (r.recordOf base e) := by
  refine ⟨r.fills_fieldValues hb e, fun l hl => ?_⟩
  obtain ⟨t, ht, hl⟩ := Option.bind_eq_some_iff.mp hl
  unfold Template.itemList? at hl
  split at hl
  · cases hl
  · rename_i hne
    cases hl
    refine ⟨t, _, ht, rfl, ?_, fun i hi => ?_⟩
    · simpa using hne
    · obtain ⟨scope, -, rfl⟩ := List.mem_map.mp hi
      exact t.fills_fieldValues hb scope

end

/-- Every record of an extraction is filled by its rule, where relative addresses are resolved
against a URL that was read. -/
theorem fills_extract {base : Option Url} (hb : ∀ b ∈ base, ∃ written, Url.read written = .ok b)
    {rules : List Rule} {d : Document} {records : List Record}
    (h : extract base rules d = .ok records) :
    List.Forall₂ (fun hit record => hit.rule.Fills record) (Hit.all rules d.body.subtree)
      records := by
  have hsound : ∀ b ∈ base, b.Sound := by
    intro b hmem
    obtain ⟨written, hw⟩ := hb b hmem
    exact Url.sound_of_read hw
  obtain ⟨-, rfl⟩ := extract_eq_ok_iff.mp h
  rw [List.forall₂_map_right_iff, List.forall₂_same]
  exact fun hit _ => hit.rule.fills_recordOf hsound hit.element

/-- The text of each shelf's places in capitals, with the titles of its books as items. -/
def capitalRule : Rule :=
  (Rule.of "shelf".toList "ul".toList).offerAll
    [.fieldSelector .text "li".toList,
      .fieldOptions .text (.ofList [(OptionKey.transform, .list ["upper".toList, "trim".toList])]),
      .items ((Rule.of "items".toList "li".toList).offerAll [.fieldSelector .text "a".toList])]

theorem fills_extract_capitalRule :
    Url.read "app:/shop/list".toList = .ok shelfAddress ∧
    ∃ records, extract (some shelfAddress) [capitalRule] shelfPage = .ok records ∧
      records.map (·.fields.map (·.2.value)) =
        [[some (.many ["ONE".toList, "THREE".toList])], [some (.one "FOUR".toList)]] ∧
      List.Forall₂ (fun hit record => hit.rule.Fills record)
        (Hit.all [capitalRule] shelfPage.body.subtree) records := by
  have hread : Url.read "app:/shop/list".toList = .ok shelfAddress := rfl
  have h : (extract (some shelfAddress) [capitalRule] shelfPage).map
      (·.map (·.fields.map (·.2.value))) =
        .ok [[some (.many ["ONE".toList, "THREE".toList])], [some (.one "FOUR".toList)]] := by cbv
  refine ⟨hread, ?_⟩
  cases he : extract (some shelfAddress) [capitalRule] shelfPage with
  | error e => rw [he] at h; cases h
  | ok records =>
    rw [he] at h
    have hbase : ∀ b ∈ some shelfAddress, ∃ written, Url.read written = .ok b :=
      forall_mem_some ⟨_, hread⟩
    exact ⟨records, rfl, Except.ok.inj h, fills_extract hbase he⟩

end PageRules
