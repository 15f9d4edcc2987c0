import PageRules.Css.Component

/-! Selectors. A complex selector is read from its last compound, which is the subject, to the
compounds that must stand around it. -/

namespace PageRules.Css

inductive Comparison where
  | equal
  | includes
  | dash
  | starts
  | ends
  | contains
  deriving DecidableEq

/-- How letter case counts in the value of an attribute. -/
inductive CaseRule where
  | sensitive
  | insensitive
  /-- Insensitive in elements of HTML. -/
  | insensitiveInHtml
  deriving DecidableEq

inductive AttributeTest where
  | present
  | compare (c : Comparison) (value : Text) (case : CaseRule)
  deriving DecidableEq

/-- The places `a * n + b` for a natural `n`, counted from one. -/
structure Places where
  a : Int
  b : Int
  deriving DecidableEq

inductive Combinator where
  | descendant
  | child
  | next
  | later
  deriving DecidableEq

mutual

inductive Simple where
  | universal
  /-- No element lacks a vocabulary, so nothing matches. -/
  | noVocabulary
  | type (name : Text)
  | id (name : Text)
  | className (name : Text)
  | attribute (name : Text) (anyVocabulary : Bool) (test : AttributeTest)
  | nth (places : Places) (ofType fromEnd : Bool)
  | root
  | empty
  | scope
  /-- The element that a relative selector starts from. -/
  | anchor
  | not (l : List Complex)
  | any (l : List Complex)
  | has (l : List Complex)

inductive Complex where
  | compound (l : List Simple)
  | combine (left : Complex) (c : Combinator) (subject : List Simple)
  /-- A selector that could not be read, in a list that forgives it. -/
  | nothing

end

abbrev Selector := List Complex

end PageRules.Css
