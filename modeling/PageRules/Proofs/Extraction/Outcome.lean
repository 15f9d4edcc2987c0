import Mathlib
import PageRules.Proofs.Extraction.Walk
import PageRules.Proofs.WriteOnce

/-!
# What extraction gives

Values are wrapped with options, and one thing alone is refused there: an option with the key
`value`. So every step of extraction is a function that cannot fail (`fieldValues`, `itemList?`,
`recordOf`) behind a test for that key (`overwritesField`, `overwritesItems`, `overwrites`), and so
is extraction as a whole (`extract_eq`).
-/

namespace PageRules

open Html (Element Document)

/-- Where each member of a list is refused with the same error or has a value, the list is refused
with that error or has all the values. -/
theorem mapM_guarded {α β ε : Type} (refused : α → Bool) (e : ε) (f : α → β) (l : List α) :
    l.mapM (fun a => if refused a then Except.error e else .ok (f a)) =
      if l.any refused then Except.error e else .ok (l.map f) := by
  induction l with
  | nil => rfl
  | cons a l ih =>
    rw [List.mapM_cons, ih, List.any_cons]
    cases refused a with
    | true => rfl
    | false => cases l.any refused <;> rfl

/-! ## Wrapped values -/

namespace Tagged

variable {α : Type}

/-- A value with the options that are copied into the output. -/
def wrap (value : α) (o : OptionSet) : Tagged α where
  value := some value
  metadata := o.passthrough

theorem insertAll_eq (t : Tagged α) (entries : List (Text × OptionValue)) :
    t.insertAll entries =
      if entries.any (·.1 = OptionKey.value) then .error {}
      else .ok { t with metadata := t.metadata.insertAll entries } := by
  induction entries generalizing t with
  | nil => rfl
  | cons e entries ih =>
    have hstep : t.insertAll (e :: entries) = (t.insert e.1 e.2).bind (insertAll · entries) := rfl
    rw [hstep, List.any_cons]
    by_cases he : e.1 = OptionKey.value
    · simp [insert, he, Except.bind]
    · simp only [insert, if_neg he, Except.bind, ih, decide_eq_false he, Bool.false_or]
      rfl

/-- The key of the value steers nothing, so it is copied wherever it is set. -/
theorem any_passthrough_eq_value (o : OptionSet) :
    o.passthrough.entries.any (·.1 = OptionKey.value) = o.contains OptionKey.value := by
  have hsteers : OptionKey.steers OptionKey.value = false := by decide
  rw [Bool.eq_iff_iff, WriteOnce.contains_iff, List.any_eq_true]
  constructor
  · rintro ⟨e, he, hk⟩
    exact of_decide_eq_true hk ▸ WriteOnce.mem_keys_of_mem_entries (List.mem_filter.mp he).1
  · intro hk
    obtain ⟨e, he, hk⟩ := List.mem_map.mp hk
    exact ⟨e, List.mem_filter.mpr ⟨he, by simp [hk, hsteers]⟩, by simpa using hk⟩

theorem withPassthrough_eq (value : α) (o : OptionSet) :
    withPassthrough value o =
      if o.contains OptionKey.value then .error {} else .ok (wrap value o) := by
  rw [withPassthrough, insertAll_eq, any_passthrough_eq_value]
  have hmeta : (bare value).metadata.insertAll o.passthrough.entries = o.passthrough :=
    WriteOnce.empty_insertAll _
  rw [hmeta]
  rfl

end Tagged

/-! ## Fields and items -/

namespace Template

variable (t : Template) (base : Option Url) (scope : Element)

/-- A field with a value in the scope has an option that would overwrite it. -/
def overwritesField : Bool :=
  (t.valuesIn base scope).any fun (f, _) => (t.optionsOf f).contains OptionKey.value

/-- The fields of a scope, each value wrapped with the options of its field. -/
def fieldValues : FieldValues :=
  (t.valuesIn base scope).map fun (f, value) => (f, .wrap value (t.optionsOf f))

theorem fieldsIn_eq :
    t.fieldsIn base scope =
      if t.overwritesField base scope then .error {} else .ok (t.fieldValues base scope) := by
  rw [overwritesField, fieldValues, ← mapM_guarded, fieldsIn]
  congr 1
  funext ⟨f, value⟩
  simp only [Tagged.withPassthrough_eq]
  split <;> rfl

theorem map_fst_fieldValues :
    (t.fieldValues base scope).map Prod.fst = (t.valuesIn base scope).map Prod.fst := by
  rw [fieldValues, List.map_map]
  rfl

/-- Fields keep the order of their declaration. -/
theorem fieldValues_sublist :
    ((t.fieldValues base scope).map Prod.fst).Sublist t.fieldSelectors.keys := by
  rw [map_fst_fieldValues, valuesIn, WriteOnce.keys]
  induction t.fieldSelectors.entries with
  | nil => exact List.Sublist.slnil
  | cons e entries ih =>
    obtain ⟨f, selector⟩ := e
    simp only [List.filterMap_cons, List.map_cons]
    cases t.extracted? base scope f selector with
    | none => exact ih.cons f
    | some value => exact ih.cons_cons f

theorem nodup_fieldValues : ((t.fieldValues base scope).map Prod.fst).Nodup :=
  t.fieldSelectors.nodup.sublist (t.fieldValues_sublist base scope)

/-- There are items in the scope, and an option would overwrite them or one of their values. -/
def overwritesItems : Bool :=
  !(t.itemScopes scope).isEmpty &&
    ((t.itemScopes scope).any (t.overwritesField base) || t.sectionOptions.contains OptionKey.value)

/-- The items of a scope, wrapped with the options of the template. -/
def itemList? : Option (Tagged (List Item)) :=
  if (t.itemScopes scope).isEmpty then none
  else some (.wrap ((t.itemScopes scope).map fun e => ⟨t.fieldValues base e⟩) t.sectionOptions)

theorem itemsIn_eq :
    t.itemsIn base scope =
      if t.overwritesItems base scope then .error {} else .ok (t.itemList? base scope) := by
  have hitems : (t.itemScopes scope).mapM (fun e => Item.mk <$> t.fieldsIn base e) =
      if (t.itemScopes scope).any (t.overwritesField base) then .error {}
      else .ok ((t.itemScopes scope).map fun e => ⟨t.fieldValues base e⟩) := by
    rw [← mapM_guarded]
    congr 1
    funext e
    rw [fieldsIn_eq]
    split <;> rfl
  unfold itemsIn overwritesItems itemList?
  rw [hitems]
  cases (t.itemScopes scope).isEmpty with
  | true => rfl
  | false =>
    cases (t.itemScopes scope).any (t.overwritesField base) with
    | true => rfl
    | false =>
      simp only [Bool.false_eq_true, if_false, Tagged.withPassthrough_eq, Bool.not_false,
        Bool.true_and, Bool.false_or]
      split <;> rfl

end Template

/-! ## Records -/

namespace Rule

variable (r : Rule) (base : Option Url) (e : Element)

/-- An option of the rule or of its template would overwrite a value. -/
def overwrites : Bool := r.overwritesField base e || r.items.any (·.overwritesItems base e)

/-- The record of an element. -/
def recordOf : Record where
  ruleName := r.name
  metadata := r.metadata
  fields := r.fieldValues base e
  items := r.items.bind (·.itemList? base e)

theorem record_eq :
    r.record base e = if r.overwrites base e then .error {} else .ok (r.recordOf base e) := by
  unfold record overwrites recordOf
  rw [Template.fieldsIn_eq]
  cases r.overwritesField base e with
  | true => rfl
  | false =>
    cases r.items with
    | none => rfl
    | some t =>
      simp only [Template.itemsIn_eq]
      cases ht : t.overwritesItems base e <;> simp [ht] <;> rfl

end Rule

variable {base : Option Url} {rules : List Rule} {d : Document} {records : List Record}

theorem extract_eq (base : Option Url) (rules : List Rule) (d : Document) :
    extract base rules d =
      if (Hit.all rules d.body.subtree).any fun h => h.rule.overwrites base h.element then .error {}
      else .ok ((Hit.all rules d.body.subtree).map fun h => h.rule.recordOf base h.element) := by
  rw [← mapM_guarded, extract]
  congr 1
  funext h
  exact h.rule.record_eq base h.element

theorem extract_eq_ok_iff :
    extract base rules d = .ok records ↔
      (∀ h ∈ Hit.all rules d.body.subtree, h.rule.overwrites base h.element = false) ∧
        records = (Hit.all rules d.body.subtree).map fun h => h.rule.recordOf base h.element := by
  rw [extract_eq]
  split
  · rename_i hany
    obtain ⟨h, hm, ho⟩ := List.any_eq_true.mp hany
    simp only [reduceCtorEq, false_iff, not_and]
    intro hall
    rw [hall h hm] at ho
    cases ho
  · rename_i hany
    simp only [List.any_eq_true, not_exists, not_and, Bool.not_eq_true] at hany
    rw [Except.ok.injEq, eq_comm]
    exact ⟨fun h => ⟨hany, h⟩, And.right⟩

/-- The same over the walk, where no places are kept. -/
theorem extract_eq_ite_walk (base : Option Url) (rules : List Rule) (d : Document) :
    extract base rules d =
      if (walk rules d.body.subtree).any fun (e, r) => r.overwrites base e then .error {}
      else .ok ((walk rules d.body.subtree).map fun (e, r) => r.recordOf base e) := by
  rw [extract_eq, ← Hit.map_walk, ← Hit.all_eq_walk, List.any_map, List.map_map]
  rfl

/-! ## A page of shelves -/

/-- Two shelves with books, the first with an empty place, and a note behind them. -/
def shelfPage : Document :=
  let book (made : Nat) (href title : String) : Html.Node :=
    .element made { name := "li".toList } [.element (made + 1)
      { name := "a".toList, attributes := [{ name := "href".toList, value := href.toList }] }
      [.text title.toList]]
  let empty : Html.Node := .element 5 { name := "li".toList } []
  let body : Html.Node := .element 1 { name := "body".toList }
    [.element 2 { name := "ul".toList } [book 3 "/1" "One", empty, book 6 "/3" "Three"],
      .element 8 { name := "ul".toList } [book 9 "/4" "Four"],
      .element 11 { name := "p".toList } [.text "End".toList]]
  { root := ⟨0, { name := "html".toList }, [body], []⟩ }

/-- The first shelf with the titles of its books, and its first two places as items. One of the
section options would shadow the name of the rule. -/
def shelfRule : Rule :=
  (Rule.of "shelf".toList "ul".toList).offerAll
    [.fieldSelector .text "a".toList, .fieldOptions .text (.ofList [("label".toList, .text ['t'])]),
      .sectionOptions (.ofList [("type".toList, .text ['s']), ("wide".toList, .flag true),
        (OptionKey.limit, .integer 1)]),
      .items ((Rule.of "items".toList "li".toList).offerAll
        [.fieldSelector .link "a".toList,
          .sectionOptions (.ofList [(OptionKey.limit, .integer 2), ("tall".toList, .flag true)])])]

end PageRules
