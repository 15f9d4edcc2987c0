import PageRules.Text.Basic

/-! Path patterns as tokens. `?` and `*` stay within a segment, `**` crosses segments, brackets
hold a class and braces hold alternatives. -/

namespace PageRules.Glob

inductive Token where
  | literal (c : Char)
  /-- Written `?`. -/
  | any
  /-- Written `*`. -/
  | run
  /-- Written `**` or `**/` where nothing stands before it. -/
  | deepFirst
  /-- Written `/**` where nothing stands after it. -/
  | deepLast
  /-- Written `/**/`. -/
  | deepBetween
  | charClass (negated : Bool) (ranges : List (Char × Char))
  | choice (branches : List (List Token))

inductive Error where
  | unclosedClass
  | invalidRange (first last : Char)
  | danglingEscape
  | unopenedChoice
  | unclosedChoice
  deriving DecidableEq

def Error.reason : Error → Text
  | .unclosedClass => "unclosed character class; missing ']'".toList
  | .invalidRange first last =>
    "invalid range; '".toList ++ first :: "' > '".toList ++ [last, '\'']
  | .danglingEscape => "dangling '\\'".toList
  | .unopenedChoice =>
    "unopened alternate group; missing '\x7b' (maybe escape '\x7d' with '[\x7d]'?)".toList
  | .unclosedChoice =>
    "unclosed alternate group; missing '\x7d' (maybe escape '\x7b' with '[\x7b]'?)".toList

/-- What is reported of a pattern that cannot be read. -/
def Error.message (pattern : Text) (error : Error) : Text :=
  "error parsing glob '".toList ++ pattern ++ "': ".toList ++ error.reason

end PageRules.Glob
