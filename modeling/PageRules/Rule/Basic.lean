import PageRules.Rule.OptionSet

/-! Rules. A rule selects the elements of a section and says where the fields of each are found; it
may have a template for items inside them. The template of items is no rule, so items never nest. -/

namespace PageRules

inductive Field where
  | text
  | img
  | link
  deriving DecidableEq

namespace Field

def all : List Field := [.text, .img, .link]

def name : Field → Text
  | .text => "text".toList
  | .img => "img".toList
  | .link => "link".toList

/-- The field of a name, in any letter case. -/
def ofName? (name : Text) : Option Field := all.find? fun f => Text.eqIgnoreCase f.name name

/-- The attribute that holds the field's value where no other is asked for. -/
def attribute? : Field → Option Text
  | .text => none
  | .img => some "src".toList
  | .link => some "href".toList

end Field

/-- Where the fields of an element are found. -/
structure Template where
  name : Text
  selector : Text
  fieldSelectors : WriteOnce Field Text := .empty
  fieldOptions : WriteOnce Field OptionSet := .empty
  sectionOptions : OptionSet := .empty
  deriving DecidableEq

namespace Template

def addFieldSelector (t : Template) (f : Field) (selector : Text) : Template :=
  { t with fieldSelectors := t.fieldSelectors.insert f selector }

def addFieldOptions (t : Template) (f : Field) (options : OptionSet) : Template :=
  { t with fieldOptions := t.fieldOptions.insert f options }

def addSectionOptions (t : Template) (options : OptionSet) : Template :=
  { t with sectionOptions := t.sectionOptions.insertAll options.entries }

/-- The options of a field, none being set where the rule has none for it. -/
def optionsOf (t : Template) (f : Field) : OptionSet := (t.fieldOptions.get? f).getD .empty

def fieldsDisplay (t : Template) : Text :=
  t.fieldSelectors.entries.flatMap fun (f, selector) =>
    ' ' :: f.name ++ ": ".toList ++ selector ++ [';']

def headDisplay (t : Template) : Text := t.name ++ ": ".toList ++ t.selector ++ [' ', '\x7b']

/-- The template on one line. -/
def display (t : Template) : Text := t.headDisplay ++ t.fieldsDisplay ++ [' ', '\x7d']

end Template

structure Rule extends Template where
  items : Option Template := none
  deriving DecidableEq

namespace Rule

/-- A rule for a section, without fields. -/
def of (name selector : Text) : Rule := { name, selector }

/-- What may be offered to a rule while it is built. -/
inductive Offer where
  | fieldSelector (f : Field) (selector : Text)
  | fieldOptions (f : Field) (options : OptionSet)
  | items (rule : Rule)
  | sectionOptions (options : OptionSet)

/-- The rule takes the offer: nothing of the kind is there yet, and an item template has no items
of its own. -/
def accepts (r : Rule) : Offer → Bool
  | .fieldSelector f _ => !r.fieldSelectors.contains f
  | .fieldOptions f _ => !r.fieldOptions.contains f
  | .items rule => r.items.isNone && rule.items.isNone
  | .sectionOptions _ => true

/-- The rule after an offer; one that it does not accept leaves it as it was. -/
def offer (r : Rule) : Offer → Rule
  | .fieldSelector f selector => { r with toTemplate := r.addFieldSelector f selector }
  | .fieldOptions f options => { r with toTemplate := r.addFieldOptions f options }
  | .items rule =>
    if r.items.isNone && rule.items.isNone then { r with items := some rule.toTemplate } else r
  | .sectionOptions options => { r with toTemplate := r.addSectionOptions options }

def offerAll (r : Rule) (offers : List Offer) : Rule := offers.foldl offer r

/-- The rule on one line. -/
def display (r : Rule) : Text :=
  r.headDisplay ++ r.fieldsDisplay ++
    (match r.items with
      | some t => " items: ".toList ++ t.display
      | none => []) ++ [' ', '\x7d']

end Rule
end PageRules
