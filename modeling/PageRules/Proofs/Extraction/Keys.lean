import Mathlib
import PageRules.Proofs.Extraction.Outcome

/-!
# Keys of the output

Keys of the output come from names of the format, from names of fields and from options that the
rules choose. `Rule.Writes` says how the record of a rule is put together from them. Where nothing
is overwritten, no object of a record has a key twice or a key that steers the extraction
(`Rule.everyObject_recordOf`).
-/

namespace PageRules

open Html (Element Document)

/-- A property of the keys of every object inside a value, the value included. -/
inductive Json.EveryObject (p : List Text → Prop) : Json → Prop where
  | null : EveryObject p .null
  | bool (b : Bool) : EveryObject p (.bool b)
  | int (n : Int) : EveryObject p (.int n)
  | real (spelling : Text) : EveryObject p (.real spelling)
  | str (t : Text) : EveryObject p (.str t)
  | arr {vs : List Json} (h : ∀ v ∈ vs, EveryObject p v) : EveryObject p (.arr vs)
  | obj {ms : List (Text × Json)} (hp : p (ms.map Prod.fst)) (h : ∀ m ∈ ms, EveryObject p m.2) :
    EveryObject p (.obj ms)
  | unreadable : EveryObject p .unreadable

/-- The keys differ from each other, and none of them steers the extraction. -/
structure SoundKeys (keys : List Text) : Prop where
  nodup : keys.Nodup
  steers : ∀ k ∈ keys, OptionKey.steers k = false

/-! ## How output is written -/

/-- Options as members of an object, in their order. -/
def optionMembers (entries : List (Text × OptionValue)) : List (Text × Json) :=
  entries.map fun (k, o) => (k, o.toJson)

/-- A value with the options that are copied: alone where there are none, else in an object that has
it first. -/
def wrapped (o : OptionSet) (value : Json) : Json :=
  if o.passthrough.isEmpty then value
  else .obj ((OptionKey.value, value) :: optionMembers o.passthrough.entries)

namespace Template

/-- The members are fields in the order of their declaration, each wrapped with its options. -/
def WritesFields (t : Template) (members : List (Text × Json)) : Prop :=
  ∃ values : List (Field × Extracted), (values.map Prod.fst).Sublist t.fieldSelectors.keys ∧
    members = values.map fun (f, value) => (f.name, wrapped (t.optionsOf f) value.toJson)

/-- The value is a list of items, wrapped with the options of the template. -/
def WritesItems (t : Template) (j : Json) : Prop :=
  ∃ items : List (List (Text × Json)), (∀ i ∈ items, t.WritesFields i) ∧
    j = wrapped t.sectionOptions (.arr (items.map .obj))

end Template

/-- The value is an object with the name of the rule, the options that are copied, the fields and,
if there are any, the items, in this order. -/
def Rule.Writes (r : Rule) (j : Json) : Prop :=
  ∃ fields items : List (Text × Json), r.WritesFields fields ∧
    (items = [] ∨
      ∃ t l, r.items = some t ∧ t.WritesItems l ∧ items = [("items".toList, l)]) ∧
    j = .obj (("type".toList, .str r.name) ::
      optionMembers (r.sectionOptions.passthrough.entries.filter (!Record.isReservedKey ·.1)) ++
      fields ++ items)

theorem Tagged.toJson_wrap {α : Type} (json : α → Json) (value : α) (o : OptionSet) :
    (wrap value o).toJson json = wrapped o (json value) := rfl

namespace Template

variable (t : Template) (base : Option Url) (scope : Element)

/-- The fields are written under their names, each wrapped with its own options. -/
theorem writesFields : t.WritesFields (FieldValues.toMembers (t.fieldValues base scope)) := by
  refine ⟨t.valuesIn base scope, ?_, ?_⟩
  · exact t.map_fst_fieldValues base scope ▸ t.fieldValues_sublist base scope
  rw [fieldValues, FieldValues.toMembers, List.map_map]
  rfl

/-- The items are written as a list, wrapped with the options of the template. -/
theorem writesItems {l : Tagged (List Item)} (h : t.itemList? base scope = some l) :
    t.WritesItems (l.toJson fun items => .arr (items.map Item.toJson)) := by
  unfold itemList? at h
  split at h
  · cases h
  · cases h
    refine ⟨(t.itemScopes scope).map fun e => FieldValues.toMembers (t.fieldValues base e), ?_, ?_⟩
    · intro i hi
      obtain ⟨e, -, rfl⟩ := List.mem_map.mp hi
      exact t.writesFields base e
    · rw [Tagged.toJson_wrap, List.map_map, List.map_map]
      rfl

end Template

/-- The record of a rule is written as the rule says. -/
theorem Rule.writes_recordOf (r : Rule) (base : Option Url) (e : Element) :
    r.Writes (r.recordOf base e).toJson := by
  refine ⟨_, _, r.writesFields base e, ?_, rfl⟩
  cases hi : r.items.bind (·.itemList? base e) with
  | none => exact .inl (by simp [recordOf, hi])
  | some l =>
    obtain ⟨t, ht, hl⟩ := Option.bind_eq_some_iff.mp hi
    exact .inr ⟨t, _, ht, t.writesItems base e hl, by simp [recordOf, hi]⟩

/-! ## Keys of what is written -/

namespace SoundKeys

variable {k : Text} {keys more : List Text}

theorem nil : SoundKeys [] := ⟨List.nodup_nil, by simp⟩

theorem cons (hk : k ∉ keys) (hs : OptionKey.steers k = false) (h : SoundKeys keys) :
    SoundKeys (k :: keys) :=
  ⟨List.nodup_cons.mpr ⟨hk, h.nodup⟩, List.forall_mem_cons.mpr ⟨hs, h.steers⟩⟩

theorem append (h : SoundKeys keys) (hm : SoundKeys more) (hd : keys.Disjoint more) :
    SoundKeys (keys ++ more) :=
  ⟨h.nodup.append hm.nodup hd, List.forall_mem_append.mpr ⟨h.steers, hm.steers⟩⟩

theorem sublist (h : SoundKeys more) (hs : keys.Sublist more) : SoundKeys keys :=
  ⟨h.nodup.sublist hs, fun _ hk => h.steers _ (hs.subset hk)⟩

end SoundKeys

/-- No two fields share a name. -/
theorem Field.name_injective : Function.Injective Field.name := by
  intro f g h
  cases f <;> cases g <;> first | rfl | exact absurd h (by decide)

/-- No option of a section passes for a field, since its key would be reserved. -/
theorem Field.isReservedKey_name (f : Field) : Record.isReservedKey f.name = true := by
  cases f <;> decide

theorem Field.soundKeys_names {fields : List Field} (h : fields.Nodup) :
    SoundKeys (fields.map Field.name) := by
  refine ⟨h.map Field.name_injective, fun k hk => ?_⟩
  obtain ⟨f, -, rfl⟩ := List.mem_map.mp hk
  cases f <;> decide

/-- The options that go into the output have each key once and steer nothing. -/
theorem OptionSet.soundKeys_passthrough (o : OptionSet) : SoundKeys o.passthrough.keys := by
  refine ⟨o.passthrough.nodup, fun k hk => ?_⟩
  obtain ⟨e, he, rfl⟩ := List.mem_map.mp hk
  simpa using (List.mem_filter.mp he).2

theorem OptionValue.everyObject {p : List Text → Prop} (o : OptionValue) :
    o.toJson.EveryObject p := by
  cases o with
  | text t => exact .str t
  | integer n => exact .int n
  | flag b => exact .bool b
  | list items =>
    refine .arr fun v hv => ?_
    obtain ⟨t, -, rfl⟩ := List.mem_map.mp hv
    exact .str t

theorem Extracted.everyObject {p : List Text → Prop} (x : Extracted) :
    x.toJson.EveryObject p := by
  cases x with
  | one t => exact .str t
  | many ts =>
    refine .arr fun v hv => ?_
    obtain ⟨t, -, rfl⟩ := List.mem_map.mp hv
    exact .str t

theorem everyObject_optionMembers {p : List Text → Prop} (entries : List (Text × OptionValue)) :
    ∀ m ∈ optionMembers entries, m.2.EveryObject p := by
  intro m hm
  obtain ⟨e, -, rfl⟩ := List.mem_map.mp hm
  exact e.2.everyObject

theorem keys_optionMembers (entries : List (Text × OptionValue)) :
    (optionMembers entries).map Prod.fst = entries.map Prod.fst := by
  rw [optionMembers, List.map_map]
  rfl

/-- A wrapped value has its own key once: an option of that name would have been refused. -/
theorem everyObject_wrapped {o : OptionSet} {value : Json}
    (ho : o.contains OptionKey.value = false) (hv : value.EveryObject SoundKeys) :
    (wrapped o value).EveryObject SoundKeys := by
  unfold wrapped
  split
  · exact hv
  have hvalue : OptionKey.value ∉ o.passthrough.keys := by
    intro hk
    obtain ⟨e, he, hek⟩ := List.mem_map.mp hk
    have hm := WriteOnce.mem_keys_of_mem_entries (List.mem_filter.mp he).1
    rw [hek, ← WriteOnce.contains_iff, ho] at hm
    cases hm
  refine .obj ?_ (List.forall_mem_cons.mpr ⟨hv, everyObject_optionMembers _⟩)
  rw [List.map_cons, keys_optionMembers]
  have hsteers : OptionKey.steers OptionKey.value = false := by decide
  exact .cons hvalue hsteers o.soundKeys_passthrough

theorem FieldValues.map_fst_toMembers (fields : FieldValues) :
    (toMembers fields).map Prod.fst = (fields.map Prod.fst).map Field.name := by
  rw [toMembers, List.map_map, List.map_map]
  rfl

namespace Template

variable {t : Template} {base : Option Url} {scope : Element}

/-- The objects around the values of fields have sound keys where no option overwrites a value. -/
theorem everyObject_fieldValues (h : t.overwritesField base scope = false) :
    ∀ m ∈ FieldValues.toMembers (t.fieldValues base scope), m.2.EveryObject SoundKeys := by
  intro m hm
  rw [fieldValues, FieldValues.toMembers, List.map_map] at hm
  obtain ⟨⟨f, value⟩, hv, rfl⟩ := List.mem_map.mp hm
  have ho : (t.optionsOf f).contains OptionKey.value = false :=
    Bool.eq_false_iff.mpr (List.any_eq_false.mp h (f, value) hv)
  exact everyObject_wrapped ho value.everyObject

theorem everyObject_itemList? (h : t.overwritesItems base scope = false) {l : Tagged (List Item)}
    (hl : t.itemList? base scope = some l) :
    (l.toJson fun items => .arr (items.map Item.toJson)).EveryObject SoundKeys := by
  unfold itemList? at hl
  split at hl
  · cases hl
  rename_i hne
  cases hl
  rw [overwritesItems, Bool.and_eq_false_imp] at h
  obtain ⟨hfields, ho⟩ := Bool.or_eq_false_iff.mp (h (by simpa using hne))
  refine everyObject_wrapped ho (.arr fun v hv => ?_)
  rw [List.map_map] at hv
  obtain ⟨e, he, rfl⟩ := List.mem_map.mp hv
  have hfield : t.overwritesField base e = false :=
    Bool.eq_false_iff.mpr (List.any_eq_false.mp hfields e he)
  refine .obj ?_ (everyObject_fieldValues hfield)
  rw [FieldValues.map_fst_toMembers]
  exact Field.soundKeys_names (t.nodup_fieldValues base e)

end Template

/-- The options of a record keep clear of the names of its other members, and these of each
other. -/
theorem soundKeys_record {options items : List Text} {fields : List Field}
    (ho : SoundKeys options) (hr : ∀ k ∈ options, Record.isReservedKey k = false)
    (hf : fields.Nodup) (hi : items = [] ∨ items = ["items".toList]) :
    SoundKeys ("type".toList :: options ++ fields.map Field.name ++ items) := by
  have hname {k : Text} (hk : k ∈ fields.map Field.name) : ∃ f : Field, f.name = k := by
    obtain ⟨f, -, hf⟩ := List.mem_map.mp hk
    exact ⟨f, hf⟩
  have hitem {k : Text} (hk : k ∈ items) : k = "items".toList := by
    rcases hi with rfl | rfl
    · cases hk
    · exact List.mem_singleton.mp hk
  have hitems : SoundKeys items := by
    rcases hi with rfl | rfl
    · exact .nil
    · exact .cons List.not_mem_nil (by decide) .nil
  have hbehind : SoundKeys (fields.map Field.name ++ items) := by
    refine (Field.soundKeys_names hf).append hitems fun k hk hm => ?_
    obtain ⟨f, hf⟩ := hname hk
    rw [hitem hm] at hf
    cases f <;> cases hf
  have hreserved {k : Text} (hk : Record.isReservedKey k = true) : k ∉ options := fun hm => by
    rw [hr k hm] at hk
    cases hk
  rw [List.append_assoc, List.cons_append]
  refine .cons ?_ (by decide) (ho.append hbehind fun k hk hm => ?_)
  · rw [List.mem_append, List.mem_append]
    rintro (h | h | h)
    · exact hreserved (by decide) h
    · obtain ⟨f, hf⟩ := hname h
      cases f <;> cases hf
    · cases hitem h
  · rcases List.mem_append.mp hm with h | h
    · obtain ⟨f, rfl⟩ := hname h
      exact hreserved f.isReservedKey_name hk
    · rw [hitem h] at hk
      exact hreserved (by decide) hk

/-- A record has sound keys at every level where its metadata, its fields and its items have. -/
theorem Record.everyObject_toJson {record : Record}
    (ho : SoundKeys (record.metadata.map Prod.fst))
    (hr : ∀ k ∈ record.metadata.map Prod.fst, isReservedKey k = false)
    (hn : (record.fields.map Prod.fst).Nodup)
    (hf : ∀ m ∈ FieldValues.toMembers record.fields, m.2.EveryObject SoundKeys)
    (hi : ∀ l ∈ record.items,
      (l.toJson fun items => .arr (items.map Item.toJson)).EveryObject SoundKeys) :
    record.toJson.EveryObject SoundKeys := by
  have hfront : ∀ m ∈ ("type".toList, .str record.ruleName) :: optionMembers record.metadata ++
      FieldValues.toMembers record.fields, m.2.EveryObject SoundKeys :=
    List.forall_mem_append.mpr
      ⟨List.forall_mem_cons.mpr ⟨.str _, everyObject_optionMembers _⟩, hf⟩
  have hkeys (items : List Text) (h : items = [] ∨ items = ["items".toList]) :
      SoundKeys ("type".toList :: (optionMembers record.metadata).map Prod.fst ++
        (FieldValues.toMembers record.fields).map Prod.fst ++ items) := by
    rw [keys_optionMembers, FieldValues.map_fst_toMembers]
    exact soundKeys_record ho hr hn h
  unfold toJson
  cases hl : record.items with
  | none =>
    refine .obj ?_ (List.forall_mem_append.mpr ⟨hfront, by simp⟩)
    rw [List.map_append, List.map_append]
    exact hkeys [] (.inl rfl)
  | some l =>
    refine .obj ?_ (List.forall_mem_append.mpr ⟨hfront, List.forall_mem_singleton.mpr (hi l hl)⟩)
    rw [List.map_append, List.map_append]
    exact hkeys ["items".toList] (.inr rfl)

/-- The record of a rule has sound keys at every level where nothing is overwritten. -/
theorem Rule.everyObject_recordOf {r : Rule} {base : Option Url} {e : Element}
    (h : r.overwrites base e = false) : (r.recordOf base e).toJson.EveryObject SoundKeys := by
  obtain ⟨hfields, hitems⟩ := Bool.or_eq_false_iff.mp h
  refine Record.everyObject_toJson ?_ ?_ ?_ (Template.everyObject_fieldValues hfields) ?_
  · exact r.sectionOptions.soundKeys_passthrough.sublist (List.filter_sublist.map Prod.fst)
  · intro k hk
    obtain ⟨o, ho, rfl⟩ := List.mem_map.mp hk
    simpa using (List.mem_filter.mp ho).2
  · exact r.nodup_fieldValues base e
  · intro l hl
    obtain ⟨t, ht, hl⟩ := Option.bind_eq_some_iff.mp hl
    have hclear : t.overwritesItems base e = false := by
      rw [ht] at hitems
      exact hitems
    exact Template.everyObject_itemList? hclear hl

/-- What extraction gives has every key once in every object and no key that steers it, and every
record is written by the rule that it comes from. -/
theorem everyObject_extract {base : Option Url} {rules : List Rule} {d : Document}
    {records : List Record} (h : extract base rules d = .ok records) :
    (Json.arr (records.map Record.toJson)).EveryObject SoundKeys ∧
      List.Forall₂ (fun hit record => hit.rule.Writes record.toJson)
        (Hit.all rules d.body.subtree) records := by
  obtain ⟨hclear, rfl⟩ := extract_eq_ok_iff.mp h
  constructor
  · refine .arr fun v hv => ?_
    rw [List.map_map] at hv
    obtain ⟨hit, hm, rfl⟩ := List.mem_map.mp hv
    exact Rule.everyObject_recordOf (hclear hit hm)
  · rw [List.forall₂_map_right_iff, List.forall₂_same]
    exact fun hit _ => hit.rule.writes_recordOf base hit.element

theorem everyObject_extract_shelfPage :
    ∃ records, extract none [shelfRule] shelfPage = .ok records ∧
      records.map (·.metadata.map Prod.fst) = [["wide".toList]] ∧
      (Json.arr (records.map Record.toJson)).EveryObject SoundKeys ∧
      List.Forall₂ (fun hit record => hit.rule.Writes record.toJson)
        (Hit.all [shelfRule] shelfPage.body.subtree) records := by
  have h : (extract none [shelfRule] shelfPage).map (·.map (·.metadata.map Prod.fst)) =
      .ok [["wide".toList]] := by cbv
  cases he : extract none [shelfRule] shelfPage with
  | error e => rw [he] at h; cases h
  | ok records =>
    obtain ⟨hkeys, hwrites⟩ := everyObject_extract he
    rw [he] at h
    exact ⟨records, rfl, Except.ok.inj h, hkeys, hwrites⟩

end PageRules
