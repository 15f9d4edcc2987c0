import PageRules.Text.Basic

/-! Tables over code points, written as rows of entries. An entry names a code point, or the first
and the last of a run, in hexadecimal; after an equals sign it may say what they stand for. -/

namespace PageRules.Text

structure CodeRun where
  first : Nat
  last : Nat
  /-- The text after the equals sign. -/
  value : Text

namespace CodeRun

def ofEntry (entry : Text) : CodeRun :=
  let (codes, value) := (splitOnce (· == '=') entry).getD (entry, [])
  let (first, last) := (splitOnce (· == '-') codes).getD (codes, codes)
  { first := hexNumber first, last := hexNumber last, value }

def covers (run : CodeRun) (n : Nat) : Bool := run.first ≤ n && n ≤ run.last

end CodeRun

def codeRuns (rows : List String) : List CodeRun :=
  rows.flatMap fun row => (words row.toList).map CodeRun.ofEntry

/-- A code point lies in one of the runs. -/
def inCodeRuns (runs : List CodeRun) (c : Char) : Bool := runs.any (·.covers c.toNat)

/-- What the runs say about a character. -/
def codeValue? (runs : List CodeRun) (c : Char) : Option Text :=
  (runs.find? (·.covers c.toNat)).map (·.value)

/-- Texts for a code point and for those that follow it. -/
structure CodeForms where
  first : Nat
  forms : List Text

namespace CodeForms

/-- Commas separate the texts, plus signs their characters. -/
def ofRun (run : CodeRun) : CodeForms :=
  { first := run.first
    forms := (splitOn (· == ',') run.value).map fun form =>
      (splitOn (· == '+') form).map fun code => Char.ofNat (hexNumber code) }

def form? (f : CodeForms) (n : Nat) : Option Text :=
  if f.first ≤ n then f.forms[n - f.first]? else none

end CodeForms

def codeForms (rows : List String) : List CodeForms := (codeRuns rows).map CodeForms.ofRun

/-- The text that a table has for a character. -/
def codeForm? (table : List CodeForms) (c : Char) : Option Text :=
  table.findSome? (·.form? c.toNat)

end PageRules.Text
