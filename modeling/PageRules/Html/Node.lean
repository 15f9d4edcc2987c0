import PageRules.Text.Basic

/-! The tree of an HTML document. -/

namespace PageRules.Html

/-- The vocabulary that the name of an element belongs to. -/
inductive Vocabulary where
  | html
  | svg
  | mathml
  deriving DecidableEq

structure Attribute where
  name : Text
  value : Text
  /-- The name belongs to a vocabulary of its own, such as that of links. -/
  foreign : Bool := false
  deriving DecidableEq

structure Tag where
  name : Text
  vocabulary : Vocabulary := .html
  attributes : List Attribute := []
  deriving DecidableEq

/-- The value of the attribute of a name. -/
def Tag.attribute? (t : Tag) (name : Text) : Option Text :=
  (t.attributes.find? fun a => !a.foreign && a.name == name).map (·.value)

/-- The content of a template stands apart from the elements around it. -/
def Tag.isTemplate (t : Tag) : Bool := t.vocabulary = .html && t.name == "template".toList

/-- Elements carry the count of those made before them in their document, which tells them apart. -/
inductive Node where
  | element (made : Nat) (tag : Tag) (children : List Node)
  | text (t : Text)
  | comment

namespace Node

mutual

/-- The text inside a node, in document order. -/
def content : Node → Text
  | .element _ _ children => contentOfAll children
  | .text t => t
  | .comment => []

def contentOfAll : List Node → Text
  | [] => []
  | n :: ns => n.content ++ contentOfAll ns

end

end Node
end PageRules.Html
