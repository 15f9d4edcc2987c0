import PageRules.Html.Node

/-! Elements at their places in a document. An element knows its surroundings, so its parent and its
siblings can be reached from it. -/

namespace PageRules.Html

/-- The surroundings of a node inside its parent: the parent, the siblings before the node, nearest
first, and the siblings after it. -/
structure Crumb where
  made : Nat
  tag : Tag
  before : List Node
  after : List Node

structure Element where
  made : Nat
  tag : Tag
  children : List Node
  /-- The surroundings, innermost first. -/
  crumbs : List Crumb

namespace Element

def node (e : Element) : Node := .element e.made e.tag e.children

def isSame (e f : Element) : Bool := e.made == f.made

def attribute? (e : Element) (name : Text) : Option Text := e.tag.attribute? name

/-- All text inside the element, in document order. -/
def content (e : Element) : Text := Node.contentOfAll e.children

mutual

/-- The elements of a node in document order, the node first. -/
def ofNode (crumbs : List Crumb) : Node → List Element
  | .element made tag children =>
    ⟨made, tag, children, crumbs⟩ :: ofSiblings made tag crumbs [] children
  | _ => []

/-- The elements of siblings in document order, where `before` stand in front of them. -/
def ofSiblings (made : Nat) (tag : Tag) (crumbs : List Crumb) (before : List Node) :
    List Node → List Element
  | [] => []
  | n :: after =>
    ofNode (⟨made, tag, before, after⟩ :: crumbs) n ++
      ofSiblings made tag crumbs (n :: before) after

end

/-- The elements inside the element, in document order, also those of templates. -/
def descendants (e : Element) : List Element := ofSiblings e.made e.tag e.crumbs [] e.children

/-- The element and those inside it, in document order. -/
def subtree (e : Element) : List Element := e :: e.descendants

/-- The parent; what stands outermost in a template has none. -/
def parent? (e : Element) : Option Element :=
  match e.crumbs with
  | [] => none
  | c :: up =>
    if c.tag.isTemplate then none
    else some ⟨c.made, c.tag, c.before.reverse ++ e.node :: c.after, up⟩

def isRoot (e : Element) : Bool := e.crumbs.isEmpty && e.tag.name == "html".toList

/-- The ancestors, innermost first. -/
def ancestors (e : Element) : List Element := go e.node e.crumbs
where
  go (n : Node) : List Crumb → List Element
    | [] => []
    | c :: up =>
      let children := c.before.reverse ++ n :: c.after
      if c.tag.isTemplate then []
      else ⟨c.made, c.tag, children, up⟩ :: go (.element c.made c.tag children) up

/-- The sibling elements in front, where `after` stand behind the first of `before`, and `c` names the
parent. -/
def siblingsBefore (c : Crumb) (up : List Crumb) (after : List Node) : List Node → List Element
  | [] => []
  | n :: before =>
    (match n with
      | .element made tag cs => [⟨made, tag, cs, { c with before, after } :: up⟩]
      | _ => []) ++ siblingsBefore c up (n :: after) before

/-- The sibling elements behind, where `before` stand in front of the first of `after`, and `c` names
the parent. -/
def siblingsAfter (c : Crumb) (up : List Crumb) (before : List Node) : List Node → List Element
  | [] => []
  | n :: after =>
    (match n with
      | .element made tag cs => [⟨made, tag, cs, { c with before, after } :: up⟩]
      | _ => []) ++ siblingsAfter c up (n :: before) after

/-- The sibling elements in front, nearest first. -/
def previous (e : Element) : List Element :=
  match e.crumbs with
  | [] => []
  | c :: up => siblingsBefore c up (e.node :: c.after) c.before

/-- The sibling elements behind, nearest first. -/
def following (e : Element) : List Element :=
  match e.crumbs with
  | [] => []
  | c :: up => siblingsAfter c up (e.node :: c.before) c.after

/-- The element children. -/
def childElements (e : Element) : List Element :=
  siblingsAfter ⟨e.made, e.tag, [], []⟩ e.crumbs [] e.children

/-- How many templates an element stands in. -/
def templateDepth (e : Element) : Nat := (e.crumbs.filter (·.tag.isTemplate)).length

@[simp] theorem mem_subtree_self (e : Element) : e ∈ e.subtree := by simp [subtree]

end Element
end PageRules.Html
