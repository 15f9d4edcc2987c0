import PageRules.RuleText.Keyword

/-! The normal form of a rule text: references to line breaks are decoded, line breaks are unified
and comments are blanked. Blanking keeps every character's position and every line's number. -/

namespace PageRules.RuleText

/-- Decodes the two references that stand for line breaks. -/
def decodeBreaks : Text → Text
  | '&' :: '#' :: '1' :: '0' :: ';' :: rest => '\n' :: decodeBreaks rest
  | '&' :: '#' :: '1' :: '3' :: ';' :: rest => '\r' :: decodeBreaks rest
  | c :: rest => c :: decodeBreaks rest
  | [] => []

/-- Writes every line break as a line feed. -/
def unifyBreaks : Text → Text
  | '\r' :: '\n' :: rest => '\n' :: unifyBreaks rest
  | '\r' :: rest => '\n' :: unifyBreaks rest
  | c :: rest => c :: unifyBreaks rest
  | [] => []

/-- The text with its line breaks in one form and its comments in place. -/
def unified (raw : Text) : Text := unifyBreaks (decodeBreaks raw)

/-- A keyword may follow the character in the header of a path. -/
def boundsHeader (c : Char) : Bool := Text.isSpace c || c == '{' || c == '}' || c == ';'

/-- The text begins with the path keyword and holds no brace after its colon. -/
def startsPathHeader (t : Text) : Bool :=
  match Keyword.path.after? t with
  | some header => header.all fun c => c != '{' && c != '}'
  | none => false

/-- A line, read up to some place, is inside the header of a path; `bounded` says that a keyword
may stand at its front. -/
def inPathHeader (bounded : Bool) : Text → Bool
  | [] => false
  | c :: rest =>
    (bounded && startsPathHeader (c :: rest)) || inPathHeader (boundsHeader c) rest

/-- A place in a text: what stands before it on its line, last character first, and the number of
that line. -/
structure Place where
  line : Text := []
  number : Nat := 1

namespace Place

def push (p : Place) (c : Char) : Place :=
  if c == '\n' then ⟨[], p.number + 1⟩ else ⟨c :: p.line, p.number⟩

def inHeader (p : Place) : Bool := inPathHeader true p.line.reverse

end Place

/-- A text without comments, and the line of a comment that is never closed. -/
structure Normal where
  text : Text
  unclosed : Option Nat
  deriving DecidableEq

namespace Normal

def cons (c : Char) (n : Normal) : Normal := { n with text := c :: n.text }

/-- What a character of a comment is replaced by. -/
def blank (c : Char) : Char := if c == '\n' then '\n' else ' '

/-- Blanks comments from a place on. `opened` is the line on which the comment at hand was opened.
Inside the header of a path the two characters that open a comment belong to the pattern. -/
def strip : Place → Option Nat → Text → Normal
  | _, opened, [] => ⟨[], opened⟩
  | place, some _, '*' :: '/' :: rest =>
    cons ' ' (cons ' ' (strip ((place.push ' ').push ' ') none rest))
  | place, some n, c :: rest => cons (blank c) (strip (place.push (blank c)) (some n) rest)
  | place, none, '/' :: '*' :: rest =>
    if place.inHeader then
      cons '/' (cons '*' (strip ((place.push '/').push '*') none rest))
    else cons ' ' (cons ' ' (strip ((place.push ' ').push ' ') (some place.number) rest))
  | place, none, c :: rest => cons c (strip (place.push c) none rest)

end Normal

/-- The normal form of a rule text. -/
def normalize (raw : Text) : Normal := Normal.strip {} none (unified raw)

end PageRules.RuleText
