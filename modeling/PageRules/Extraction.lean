import PageRules.Reading
import PageRules.Record.Basic
import PageRules.Slice

/-! Extraction. Each rule finds its elements in the whole body, its section options narrow them, and
every element left gives a record. Records come in document order, and those of one element in the
order of their rules. -/

namespace PageRules

open Html (Element Document)

namespace Template

/-- The value of a field in a scope: that of the one element found, or a list of those of several. -/
def extracted? (t : Template) (base : Option Url) (scope : Element) (f : Field) (selector : Text) :
    Option Extracted :=
  let value := valueOf base f (t.optionsOf f)
  match (Css.Selector.read? selector).map fun s => slice (t.optionsOf f) (found s scope) with
  | none => none
  | some [e] => (value e).map .one
  | some es =>
    match es.filterMap value with
    | [] => none
    | ts => some (.many ts)

/-- The fields that have a value in a scope. -/
def valuesIn (t : Template) (base : Option Url) (scope : Element) : List (Field × Extracted) :=
  t.fieldSelectors.entries.filterMap fun (f, selector) =>
    (t.extracted? base scope f selector).map (f, ·)

/-- The fields of a scope with the options that are copied into the output. -/
def fieldsIn (t : Template) (base : Option Url) (scope : Element) :
    Except ValueOverwrite FieldValues :=
  (t.valuesIn base scope).mapM fun (f, value) =>
    (f, ·) <$> Tagged.withPassthrough value (t.optionsOf f)

/-- The elements of the items in a scope. -/
def itemScopes (t : Template) (scope : Element) : List Element :=
  match Css.Selector.read? t.selector with
  | some s => slice t.sectionOptions (found s scope)
  | none => []

/-- The items in a scope. An item may be empty, but no list of items is. -/
def itemsIn (t : Template) (base : Option Url) (scope : Element) :
    Except ValueOverwrite (Option (Tagged (List Item))) :=
  if (t.itemScopes scope).isEmpty then .ok none
  else do
    let items ← (t.itemScopes scope).mapM fun e => Item.mk <$> t.fieldsIn base e
    some <$> Tagged.withPassthrough items t.sectionOptions

end Template

namespace Rule

/-- The section options that a record carries. -/
def metadata (r : Rule) : List (Text × OptionValue) :=
  r.sectionOptions.passthrough.entries.filter (!Record.isReservedKey ·.1)

/-- The record of an element, also where it has no values. -/
def record (r : Rule) (base : Option Url) (e : Element) : Except ValueOverwrite Record := do
  let fields ← r.fieldsIn base e
  let items ← match r.items with
    | some t => t.itemsIn base e
    | none => .ok none
  return { ruleName := r.name, metadata := r.metadata, fields, items }

/-- The elements among some that the rule has records of, with their places. -/
def hits (r : Rule) (elements : List Element) : List (Element × Nat) :=
  match Css.Selector.read? r.selector with
  | some s => slice r.sectionOptions (elements.zipIdx.filter (s.isMatch ·.1))
  | none => []

end Rule

/-- An element that a rule has a record of, with the places of both. -/
structure Hit where
  element : Element
  place : Nat
  rule : Rule
  order : Nat

namespace Hit

def le (h k : Hit) : Bool := h.place < k.place || (h.place == k.place && h.order ≤ k.order)

/-- The hits of rules among elements in document order, in the order of their records. -/
def all (rules : List Rule) (elements : List Element) : List Hit :=
  (rules.zipIdx.flatMap fun (rule, order) =>
    (rule.hits elements).map fun (element, place) => { element, place, rule, order }).mergeSort le

def record (base : Option Url) (h : Hit) : Except ValueOverwrite Record :=
  h.rule.record base h.element

end Hit

/-- The records of a document. Relative addresses are resolved against `base`. -/
def extract (base : Option Url) (rules : List Rule) (d : Document) :
    Except ValueOverwrite (List Record) :=
  (Hit.all rules d.body.subtree).mapM (Hit.record base)

end PageRules
