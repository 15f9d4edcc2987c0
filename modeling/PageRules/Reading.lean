import PageRules.Css.Match
import PageRules.Html.Document
import PageRules.Rule.Basic
import PageRules.Transform

/-! What is read from elements: which of them a selector finds, and the values they hold. -/

namespace PageRules

open Html (Element)

/-- The elements that a selector finds: the scope if it matches on its own, then the matches inside
it. -/
def found (selector : Css.Selector) (scope : Element) : List Element :=
  (if selector.isMatch scope then [scope] else []) ++ selector.inside scope

/-- The text inside an element with one space between words. -/
def visibleText (e : Element) : Text := Text.join [' '] (Text.words e.content)

/-- The first non-blank value among some attributes, trimmed. -/
def firstAttribute? (names : List Text) (e : Element) : Option Text :=
  names.findSome? fun name => ((e.attribute? name).map Text.trim).filter (· ≠ [])

def isAnchor (e : Element) : Bool := e.tag.name == ['a']

/-- The element that a link is read from: the first anchor of the element and those inside it, or
the element where there is none. -/
def linkTarget (e : Element) : Element := (e.subtree.find? isAnchor).getD e

/-- What an element holds for a field. Text is read from the element itself unless the options name
attributes. -/
def rawValue (f : Field) (options : OptionSet) (e : Element) : Option Text :=
  match OptionSet.attrChain? options <|> f.attribute?.map ([·]) with
  | none => some (visibleText e)
  | some names => firstAttribute? names (if f = .link then linkTarget e else e)

/-- The value of a field in an element, with the transforms of the options applied. An empty value
is no value. -/
def valueOf (base : Option Url) (f : Field) (options : OptionSet) (e : Element) : Option Text :=
  let names := (OptionSet.list? options OptionKey.transform).getD []
  ((rawValue f options e).map (Transform.applyAll base names)).filter (· ≠ [])

end PageRules
