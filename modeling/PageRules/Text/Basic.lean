/-! Text as a list of characters. Positions in a text count characters, and every cut is a list
operation, so a cut never falls inside a character. -/

namespace PageRules

abbrev Text := List Char

namespace Text

/-- The white space of Unicode. -/
def isBlank (c : Char) : Bool :=
  let n := c.toNat
  (9 ≤ n && n ≤ 13) || n == 0x20 || n == 0x85 || n == 0xA0 || n == 0x1680 ||
    (0x2000 ≤ n && n ≤ 0x200A) || n == 0x2028 || n == 0x2029 || n == 0x202F || n == 0x205F ||
    n == 0x3000

/-- The white space of markup: tab, line feed, form feed, carriage return and space. -/
def isSpace (c : Char) : Bool :=
  c == ' ' || c == '\t' || c == '\n' || c == '\x0c' || c == '\r'

def isGap (c : Char) : Bool := c == ' ' || c == '\t'

def dropEndWhile (p : Char → Bool) (t : Text) : Text := (t.reverse.dropWhile p).reverse

def trimStart (t : Text) : Text := t.dropWhile isBlank
def trimEnd (t : Text) : Text := dropEndWhile isBlank t
def trim (t : Text) : Text := trimEnd (trimStart t)

/-- The parts of a text between the characters that satisfy `p`; one more than there are such
characters. -/
def splitOn (p : Char → Bool) : Text → List Text
  | [] => [[]]
  | c :: cs =>
    if p c then [] :: splitOn p cs
    else match splitOn p cs with
      | [] => [[c]]
      | part :: parts => (c :: part) :: parts

def lines (t : Text) : List Text := splitOn (· == '\n') t

/-- The maximal runs without white space. -/
def words (t : Text) : List Text := (splitOn isBlank t).filter (· ≠ [])

/-- The text before and after the first character that satisfies `p`. -/
def splitOnce (p : Char → Bool) : Text → Option (Text × Text)
  | [] => none
  | c :: cs =>
    if p c then some ([], cs) else (splitOnce p cs).map fun (before, after) => (c :: before, after)

/-- ASCII letters in lower case, all else as it is. -/
def lower (t : Text) : Text := t.map Char.toLower

def eqIgnoreCase (s t : Text) : Bool := lower s == lower t

/-- The text after the last character that satisfies `p`, or all of it. -/
def afterLast (p : Char → Bool) (t : Text) : Text := (t.reverse.takeWhile (!p ·)).reverse

/-- `pattern` occurs in the text. -/
def contains (pattern : Text) : Text → Bool
  | [] => pattern.isEmpty
  | c :: cs => pattern.isPrefixOf (c :: cs) || contains pattern cs

def ofNat (n : Nat) : Text := Nat.toDigits 10 n

def ofInt : Int → Text
  | .ofNat n => ofNat n
  | .negSucc n => '-' :: ofNat (n + 1)

/-- Decimal digits as a number; none for an empty text or any other character. -/
def toNat? (t : Text) : Option Nat :=
  if t.isEmpty then none
  else t.foldl (fun n c =>
    if c.isDigit then n.map (10 * · + (c.toNat - '0'.toNat)) else none) (some 0)

/-- The value of a hexadecimal digit. -/
def hexValue? (c : Char) : Option Nat :=
  let n := c.toNat
  if c.isDigit then some (n - 0x30)
  else if 0x41 ≤ n && n ≤ 0x46 then some (n - 0x37)
  else if 0x61 ≤ n && n ≤ 0x66 then some (n - 0x57)
  else none

def isHexDigit (c : Char) : Bool := (hexValue? c).isSome

/-- Hexadecimal digits as a number. -/
def hexNumber? (t : Text) : Option Nat := t.foldlM (fun n c => (hexValue? c).map (n * 16 + ·)) 0

/-- Hexadecimal digits as a number; any other text counts as zero. -/
def hexNumber (t : Text) : Nat := (hexNumber? t).getD 0

/-- The texts one after another with a separator between them. -/
def join (separator : Text) : List Text → Text
  | [] => []
  | [t] => t
  | t :: ts => t ++ separator ++ join separator ts

@[simp] theorem splitOn_ne_nil (p : Char → Bool) (t : Text) : splitOn p t ≠ [] := by
  cases t with
  | nil => simp [splitOn]
  | cons c cs =>
    unfold splitOn
    split
    · simp
    · split <;> simp

theorem length_dropWhile_le (p : Char → Bool) (t : Text) : (t.dropWhile p).length ≤ t.length := by
  simpa using (t.dropWhile_sublist p).length_le

theorem mem_words {w t : Text} (h : w ∈ words t) : w ≠ [] := by
  simpa using (List.mem_filter.mp h).2

theorem length_splitOnce {p : Char → Bool} {t before after : Text}
    (h : splitOnce p t = some (before, after)) :
    t.length = before.length + after.length + 1 := by
  induction t generalizing before after with
  | nil => simp [splitOnce] at h
  | cons c cs ih =>
    unfold splitOnce at h
    split at h
    · cases h; simp
    · obtain ⟨⟨b, a⟩, hs, he⟩ := Option.map_eq_some_iff.mp h
      cases he
      simp [ih hs]; omega

end Text
end PageRules
