import PageRules.Text.Canonical
import PageRules.Url.Domain.LabelTable

/-! Labels of domain names that are not ASCII: what may stand at their front, where joiners may
stand, and how letters of both directions may be mixed. -/

namespace PageRules.Url.Domain

def markRuns : List Text.CodeRun := Text.codeRuns markRows
def joiningRuns : List Text.CodeRun := Text.codeRuns joiningRows
def directionRuns : List Text.CodeRun := Text.codeRuns directionRows

def beginsWithMark (label : Text) : Bool :=
  match label with
  | c :: _ => Text.inCodeRuns markRuns c
  | [] => false

/-! ### Joiners -/

def nonJoiner : Char := Char.ofNat 0x200C
def joiner : Char := Char.ofNat 0x200D

/-- The nearest character that matters joins in one of the ways. -/
def meetsJoining (ways : List Text) (t : Text) : Bool :=
  match t.dropWhile fun c => Text.codeValue? joiningRuns c == some ['T'] with
  | c :: _ => ((Text.codeValue? joiningRuns c).map ways.contains).getD false
  | [] => false

/-- The reversed text before ends in a sign that takes the vowel from a letter. -/
def followsVirama (before : Text) : Bool :=
  match before with
  | c :: _ => Text.combiningClass c == 9
  | [] => false

/-- Joiners stand after a virama; the one that keeps letters apart also stands between two letters
that would join. `before` is the reversed text before. -/
def allowsJoiners (before : Text) : Text → Bool
  | [] => true
  | c :: rest =>
    (if c == joiner then followsVirama before
      else if c == nonJoiner then
        followsVirama before ||
          (meetsJoining [['L'], ['D']] before && meetsJoining [['R'], ['D']] rest)
      else true) && allowsJoiners (c :: before) rest

/-! ### Directions -/

inductive Direction where
  | leftToRight
  | rightToLeft
  | europeanDigit
  | arabicDigit
  | mark
  | neutral
  deriving DecidableEq

def direction (c : Char) : Direction :=
  match Text.codeValue? directionRuns c with
  | some ['R'] => .rightToLeft
  | some ['E'] => .europeanDigit
  | some ['A'] => .arabicDigit
  | some ['N'] => .mark
  | some ['O'] => .neutral
  | _ => .leftToRight

/-- The text has characters that run from right to left. -/
def runsBackward (t : Text) : Bool :=
  t.any fun c => direction c == .rightToLeft || direction c == .arabicDigit

/-- A label begins with a letter and ends with a letter or a digit of its direction, marks apart.
It holds no letter of the other direction, and digits of one kind only. -/
def keepsDirection (label : Text) : Bool :=
  let directions := label.map direction
  let last := (directions.reverse.dropWhile (· == .mark)).head?
  match directions.head? with
  | none => true
  | some .rightToLeft =>
    !directions.contains .leftToRight &&
      !(directions.contains .europeanDigit && directions.contains .arabicDigit) &&
      [some .rightToLeft, some .europeanDigit, some .arabicDigit].contains last
  | some .leftToRight =>
    !directions.contains .rightToLeft && !directions.contains .arabicDigit &&
      [some .leftToRight, some .europeanDigit].contains last
  | some _ => false

/-- What holds of a label on its own. -/
def isValidLabel (label : Text) : Bool := !beginsWithMark label && allowsJoiners [] label

end PageRules.Url.Domain
