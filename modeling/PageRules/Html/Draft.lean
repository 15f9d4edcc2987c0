import PageRules.Html.Node

/-! A tree under construction. Nodes are known by number, so that they can move before the tree is
finished; the root has the number zero. -/

namespace PageRules.Html

inductive Content where
  | root
  | element (tag : Tag)
  /-- The runs of a text, last first. -/
  | text (runs : List Text)
  | comment

structure Slot where
  content : Content
  parent : Option Nat := none
  children : List Nat := []

structure Draft where
  slots : Array Slot := #[{ content := .root }]

namespace Draft

def tag? (d : Draft) (n : Nat) : Option Tag :=
  match d.slots[n]? with
  | some { content := .element tag, .. } => some tag
  | _ => none

def parent? (d : Draft) (n : Nat) : Option Nat := d.slots[n]?.bind (·.parent)

def children (d : Draft) (n : Nat) : List Nat := (d.slots[n]?.map (·.children)).getD []

def modify (d : Draft) (n : Nat) (f : Slot → Slot) : Draft := ⟨d.slots.modify n f⟩

/-- A new node without a parent, and its number. -/
def add (d : Draft) (c : Content) : Nat × Draft := (d.slots.size, ⟨d.slots.push { content := c }⟩)

/-- Takes a node from its parent. -/
def detach (d : Draft) (n : Nat) : Draft :=
  match d.parent? n with
  | some p =>
    (d.modify p fun s => { s with children := s.children.filter (· != n) }).modify n
      fun s => { s with parent := none }
  | none => d

/-- Makes a node the last child of another. -/
def append (d : Draft) (parent n : Nat) : Draft :=
  ((d.detach n).modify parent fun s => { s with children := s.children ++ [n] }).modify n
    fun s => { s with parent := some parent }

/-- The children with a node put in front of one of them. -/
def putBefore (sibling n : Nat) : List Nat → List Nat
  | [] => []
  | m :: ms => if m = sibling then n :: m :: ms else m :: putBefore sibling n ms

/-- Puts a node in front of another that has a parent. -/
def insertBefore (d : Draft) (sibling n : Nat) : Draft :=
  let d := d.detach n
  match d.parent? sibling with
  | some p =>
    (d.modify p fun s => { s with children := putBefore sibling n s.children }).modify n
      fun s => { s with parent := some p }
  | none => d

/-- The child in front of another. -/
def before? (sibling : Nat) : List Nat → Option Nat
  | m :: k :: ms => if k = sibling then some m else before? sibling (k :: ms)
  | _ => none

def isText (d : Draft) (n : Nat) : Bool :=
  match d.slots[n]? with
  | some { content := .text _, .. } => true
  | _ => false

def extendText (d : Draft) (n : Nat) (t : Text) : Draft :=
  d.modify n fun s =>
    match s.content with
    | .text runs => { s with content := .text (t :: runs) }
    | _ => s

/-- Adds characters at the end of a node, to the text that is there if there is one. -/
def appendText (d : Draft) (parent : Nat) (t : Text) : Draft :=
  match (d.children parent).getLast?.filter d.isText with
  | some last => d.extendText last t
  | none =>
    let (n, d) := d.add (.text [t])
    d.append parent n

/-- Adds characters in front of a node that has a parent. -/
def textBefore (d : Draft) (sibling : Nat) (t : Text) : Draft :=
  match ((d.parent? sibling).bind fun p => before? sibling (d.children p)).filter d.isText with
  | some previous => d.extendText previous t
  | none =>
    let (n, d) := d.add (.text [t])
    d.insertBefore sibling n

/-- Moves the children of a node to the end of another. -/
def moveChildren (d : Draft) (source target : Nat) : Draft :=
  (d.children source).foldl (fun d n => d.append target n) d

/-- Adds the attributes of names that an element does not have. -/
def addAttributes (d : Draft) (n : Nat) (attributes : List Attribute) : Draft :=
  d.modify n fun s =>
    match s.content with
    | .element tag =>
      let missing := attributes.filter fun a => !tag.attributes.any (·.name == a.name)
      { s with content := .element { tag with attributes := tag.attributes ++ missing } }
    | _ => s

/-- The finished nodes below a node, down to a depth. -/
def nodesBelow (d : Draft) : Nat → Nat → List Node
  | 0, _ => []
  | depth + 1, n => (d.children n).filterMap fun m =>
    match d.slots[m]?.map Slot.content with
    | some (.element tag) => some (.element m tag (nodesBelow d depth m))
    | some (.text runs) => some (.text runs.reverse.flatten)
    | some .comment => some .comment
    | _ => none

/-- The finished nodes below a node; no branch is longer than the number of nodes. -/
def finish (d : Draft) (n : Nat) : List Node := d.nodesBelow d.slots.size n

/-- The finished trees whose first element was taken from the document. -/
def finishRemoved (d : Draft) : List Node :=
  (List.range d.slots.size).filterMap fun n =>
    match d.tag? n, d.parent? n with
    | some tag, none => some (.element n tag (d.finish n))
    | _, _ => none

end Draft
end PageRules.Html
