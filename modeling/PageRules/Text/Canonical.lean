import PageRules.Text.CanonicalTable
import PageRules.Text.CodeTable

/-! The canonical composed form of a text. Characters are taken apart, marks are put in the order of
their combining classes, and what composes is put together again. -/

namespace PageRules.Text

def decompositions : List CodeForms := codeForms decompositionRows
def excludedRuns : List CodeRun := codeRuns excludedRows
def combiningRuns : List CodeRun := codeRuns combiningRows

/-- Marks with different classes do not touch each other; class zero is for all that is no such
mark. -/
def combiningClass (c : Char) : Nat :=
  if c.toNat < 0x300 then 0 else ((codeValue? combiningRuns c).bind toNat?).getD 0

/-- A syllable of Hangul is built from a lead, a vowel and at times a tail. -/
def isSyllable (c : Char) : Bool := 0xAC00 ≤ c.toNat && c.toNat ≤ 0xD7A3

def syllableParts (c : Char) : Text :=
  let n := c.toNat - 0xAC00
  [Char.ofNat (0x1100 + n / 588), Char.ofNat (0x1161 + n % 588 / 28)] ++
    if n % 28 = 0 then [] else [Char.ofNat (0x11A7 + n % 28)]

/-- One step of decomposition. -/
def takeApart (c : Char) : Text :=
  if c.toNat < 0xC0 then [c]
  else if isSyllable c then syllableParts c
  else (codeForm? decompositions c).getD [c]

/-- No character takes more than three steps. -/
def decompose (t : Text) : Text :=
  ((t.flatMap takeApart).flatMap takeApart).flatMap takeApart

/-- A mark moves behind the marks of lower classes that follow it. -/
def placeMark (c : Char) : Text → Text
  | [] => [c]
  | d :: rest =>
    if 0 < combiningClass d && combiningClass d < combiningClass c then d :: placeMark c rest
    else c :: d :: rest

def orderMarks (t : Text) : Text := t.foldr placeMark []

/-- The pairs that compose, with what they yield. -/
def compositions : List (Text × Char) :=
  decompositions.flatMap fun f => f.forms.zipIdx.filterMap fun (form, i) =>
    let c := Char.ofNat (f.first + i)
    if form.length = 2 && !inCodeRuns excludedRuns c then some (form, c) else none

def composite? (a b : Char) : Option Char :=
  let m := a.toNat
  let n := b.toNat
  if n < 0x300 then none
  else if 0x1100 ≤ m && m ≤ 0x1112 && 0x1161 ≤ n && n ≤ 0x1175 then
    some (Char.ofNat (0xAC00 + (m - 0x1100) * 588 + (n - 0x1161) * 28))
  else if isSyllable a && (m - 0xAC00) % 28 = 0 && 0x11A8 ≤ n && n ≤ 0x11C2 then
    some (Char.ofNat (m + (n - 0x11A7)))
  else compositions.lookup [a, b]

/-- Composes what follows `starter`; `passed` are the marks after it that did not compose. A mark is
kept from the starter by one of its own class or of a higher one. -/
def composeAfter (starter : Char) (passed : Text) : Text → Text
  | [] => starter :: passed
  | c :: rest =>
    let k := combiningClass c
    let reaches : Bool := match passed.getLast? with
      | some d => combiningClass d < k
      | none => true
    match if reaches then composite? starter c else none with
    | some d => composeAfter d passed rest
    | none =>
      if k = 0 then starter :: passed ++ composeAfter c [] rest
      else composeAfter starter (passed ++ [c]) rest

def compose : Text → Text
  | [] => []
  | c :: rest => if combiningClass c = 0 then composeAfter c [] rest else c :: compose rest

/-- The canonical composed form. -/
def canonical (t : Text) : Text := compose (orderMarks (decompose t))

@[simp] theorem canonical_nil : canonical [] = [] := rfl

end PageRules.Text
