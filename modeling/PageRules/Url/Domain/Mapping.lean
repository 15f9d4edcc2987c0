import PageRules.Text.Case
import PageRules.Text.CodeTable
import PageRules.Url.Domain.MappingTable

/-! What the characters of a domain name stand for: themselves, their lower case, a plain form of
theirs, or nothing. -/

namespace PageRules.Url.Domain

def mappedForms : List Text.CodeForms := Text.codeForms mappedRows
def ignoredRuns : List Text.CodeRun := Text.codeRuns ignoredRows
def disallowedRuns : List Text.CodeRun := Text.codeRuns disallowedRows

/-- The capitals of Cherokee, which names hold in place of its small letters. -/
def isCherokeeCapital (c : Char) : Bool := 0x13A0 ≤ c.toNat && c.toNat ≤ 0x13F5

/-- What a character stands for; none where no name may hold it. -/
def mapChar? (c : Char) : Option Text :=
  if c.toNat < 0x80 then some [c.toLower]
  else if Text.inCodeRuns disallowedRuns c then none
  else if Text.inCodeRuns ignoredRuns c then some []
  else match Text.codeForm? mappedForms c with
    | some form => some form
    | none => some (if isCherokeeCapital c then [c] else Text.lowerChar c)

def map? (name : Text) : Option Text := (name.mapM mapChar?).map List.flatten

/-- The character stands for itself. -/
def isPlain (c : Char) : Bool := mapChar? c == some [c]

end PageRules.Url.Domain
