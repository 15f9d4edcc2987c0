import PageRules.Css.Read
import PageRules.Html.Element

/-! Which elements a selector matches. Everything around an element takes part, also what is
outside the element that a search is confined to. -/

namespace PageRules.Css

open Html (Element Tag)

/-! ### Attributes -/

/-- An attribute value against a comparison whose letter case is settled. An empty text is no part
of any value. -/
def Comparison.holds (c : Comparison) (expected actual : Text) : Bool :=
  match c with
  | .equal => expected == actual
  | .includes => !expected.isEmpty && (Text.splitOn Text.isSpace actual).contains expected
  | .dash => expected == actual || (expected ++ ['-']).isPrefixOf actual
  | .starts => !expected.isEmpty && expected.isPrefixOf actual
  | .ends => !expected.isEmpty && expected.isSuffixOf actual
  | .contains => !expected.isEmpty && Text.contains expected actual

def AttributeTest.holds (test : AttributeTest) (isHtml : Bool) (actual : Text) : Bool :=
  match test with
  | .present => true
  | .compare c expected case =>
    if case = .insensitive || (case = .insensitiveInHtml && isHtml) then
      c.holds (Text.lower expected) (Text.lower actual)
    else c.holds expected actual

def isHtml (t : Tag) : Bool := t.vocabulary == .html

/-- A name as elements of the tag's vocabulary spell it: HTML has lower case only. -/
def spelling (t : Tag) (name : Text) : Text := if isHtml t then Text.lower name else name

def hasAttribute (t : Tag) (name : Text) (anyVocabulary : Bool) (test : AttributeTest) : Bool :=
  t.attributes.any fun a =>
    (anyVocabulary || !a.foreign) && a.name == spelling t name && test.holds (isHtml t) a.value

def hasClass (t : Tag) (name : Text) : Bool :=
  t.attributes.any fun a =>
    a.name == "class".toList && !name.isEmpty && (Text.splitOn Text.isSpace a.value).contains name

def hasId (t : Tag) (name : Text) : Bool :=
  (t.attributes.find? fun a => a.name == "id".toList).any (·.value == name)

/-! ### Places -/

/-- The place is `a * n + b` for a natural `n`. Distances are held to 32 bits. -/
def Places.holds (p : Places) (place : Nat) : Bool :=
  let distance := (place : Int) - p.b
  distance ≤ 0x7FFFFFFF &&
    if p.a = 0 then distance = 0 else distance % p.a = 0 && 0 ≤ distance / p.a

def isSameType (e f : Element) : Bool :=
  e.tag.name == f.tag.name && e.tag.vocabulary == f.tag.vocabulary

/-- The place of an element among its siblings, from one. -/
def place (e : Element) (ofType fromEnd : Bool) : Nat :=
  let siblings := if fromEnd then e.following else e.previous
  (siblings.filter fun f => !ofType || isSameType e f).length + 1

/-- The element has neither elements nor text; the content of a template does not count. -/
def isEmpty (e : Element) : Bool :=
  e.tag.isTemplate || e.children.all fun n => match n with
    | .comment => true
    | _ => false

/-! ### Selectors -/

/-- What a selector is matched against besides an element: the element that the search is confined
to, and the one that a relative selector starts from. -/
structure Setting where
  scope : Option Element := none
  anchor : Option Element := none

/-- The element is the one that the search is confined to; an unconfined search has the root. -/
def Setting.isScope (s : Setting) (e : Element) : Bool :=
  match s.scope with
  | some f => e.isSame f
  | none => e.isRoot

/-- The elements that a relative selector may reach: those inside and behind, but not in
templates. -/
def reach (e : Element) : List Element :=
  (e.descendants ++ e.following.flatMap Element.subtree).filter
    fun f => f.templateDepth == e.templateDepth

/-- The elements that a combinator looks at. -/
def Combinator.neighbours (c : Combinator) (e : Element) : List Element :=
  match c with
  | .descendant => e.ancestors
  | .child => e.parent?.toList
  | .next => e.previous.head?.toList
  | .later => e.previous

mutual

def Simple.holds (s : Setting) : Simple → Element → Bool
  | .universal, _ => true
  | .noVocabulary, _ => false
  | .type name, e => e.tag.name == spelling e.tag name
  | .id name, e => hasId e.tag name
  | .className name, e => hasClass e.tag name
  | .attribute name anyVocabulary test, e => hasAttribute e.tag name anyVocabulary test
  | .nth places ofType fromEnd, e => places.holds (place e ofType fromEnd)
  | .root, e => e.isRoot
  | .empty, e => isEmpty e
  | .scope, e => s.isScope e
  | .anchor, e => s.anchor.any e.isSame
  | .not l, e => !someHolds s l e
  | .any l, e => someHolds s l e
  | .has l, e => (reach e).any (someHolds { s with anchor := some e } l)

def Complex.holds (s : Setting) : Complex → Element → Bool
  | .nothing, _ => false
  | .compound l, e => allHold s l e
  | .combine left c subject, e => allHold s subject e && (c.neighbours e).any (Complex.holds s left)

/-- All parts of a compound hold. -/
def allHold (s : Setting) : List Simple → Element → Bool
  | [], _ => true
  | p :: ps, e => p.holds s e && allHold s ps e

/-- Some selector of a list holds. -/
def someHolds (s : Setting) : List Complex → Element → Bool
  | [], _ => false
  | c :: cs, e => c.holds s e || someHolds s cs e

end

/-- The element matches when nothing confines the search. -/
def Selector.isMatch (l : Selector) (e : Element) : Bool := someHolds {} l e

/-- The elements inside `scope` that match in a search confined to it. -/
def Selector.inside (l : Selector) (scope : Element) : List Element :=
  scope.descendants.filter (someHolds { scope } l)

end PageRules.Css
