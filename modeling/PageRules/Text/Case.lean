import PageRules.Text.CaseTable

/-! Full upper and lower case of a text. One character may become several, and a capital sigma at
the end of a word becomes a final sigma. -/

namespace PageRules.Text

def isCased (c : Char) : Bool := inRuns casedRuns c.toNat
def isCaseIgnorable (c : Char) : Bool := inRuns caseIgnorableRuns c.toNat

private def convertChar (runs : List CaseRun) (expansions : List (Nat × List Nat)) (c : Char) :
    Text :=
  match expansions.lookup c.toNat with
  | some forms => forms.map Char.ofNat
  | none => [Char.ofNat (CaseRun.convert runs c.toNat)]

def upperChar (c : Char) : Text := convertChar upperRuns upperExpansions c
def lowerChar (c : Char) : Text := convertChar lowerRuns lowerExpansions c

/-- The next character that matters for case is a cased one. -/
def meetsCased (t : Text) : Bool :=
  match t.dropWhile isCaseIgnorable with
  | [] => false
  | c :: _ => isCased c

def toUpper (t : Text) : Text := t.flatMap upperChar

/-- Lower case of `rest`, which follows the reversed text `before`. -/
def toLowerAfter (before : Text) : Text → Text
  | [] => []
  | c :: rest =>
    (if c == 'Σ' then [if meetsCased before && !meetsCased rest then 'ς' else 'σ'] else lowerChar c) ++
      toLowerAfter (c :: before) rest

def toLower (t : Text) : Text := toLowerAfter [] t

@[simp] theorem toUpper_nil : toUpper [] = [] := rfl

@[simp] theorem toUpper_append (s t : Text) : toUpper (s ++ t) = toUpper s ++ toUpper t :=
  List.flatMap_append

@[simp] theorem toLower_nil : toLower [] = [] := rfl

end PageRules.Text
