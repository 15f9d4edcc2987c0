import PageRules.Html.ReferenceTable
import PageRules.Text.Basic

/-! Character references in HTML, by name and by number. -/

namespace PageRules.Html

structure NamedReference where
  name : Text
  value : Text
  /-- The name may stand without a semicolon. -/
  bare : Bool

def NamedReference.ofEntry (entry : Text) : NamedReference :=
  let name := entry.takeWhile fun c => c.isAlphanum
  let codes := (entry.dropWhile (· != '=')).drop 1
  { name
    value := (Text.splitOn (· == '+') codes).map fun code => Char.ofNat (Text.hexNumber code)
    bare := entry.any (· == '*') }

def namedReferences : List NamedReference :=
  referenceRows.flatMap fun row => (Text.words row.toList).map NamedReference.ofEntry

/-- How many characters of a text a reference takes, where it stands at the front. -/
def NamedReference.size? (r : NamedReference) (t : Text) : Option Nat :=
  match r.name.isPrefixOf? t with
  | some (c :: _) => if c == ';' then some (r.name.length + 1) else bareSize
  | some [] => bareSize
  | none => none
where
  bareSize : Option Nat := if r.bare then some r.name.length else none

/-- The value and the size of the longest reference at the front. -/
def longestReference? (t : Text) : Option (Text × Nat) :=
  namedReferences.foldl (fun best r =>
    match r.size? t with
    | some n =>
      match best with
      | some (_, m) => if m < n then some (r.value, n) else best
      | none => some (r.value, n)
    | none => best) none

/-- What numbers from 128 to 159 stand for, where it is not the control of that number. -/
def legacyCodes : List (Nat × Nat) :=
  [(0x80, 0x20AC), (0x82, 0x201A), (0x83, 0x0192), (0x84, 0x201E), (0x85, 0x2026), (0x86, 0x2020),
    (0x87, 0x2021), (0x88, 0x02C6), (0x89, 0x2030), (0x8A, 0x0160), (0x8B, 0x2039), (0x8C, 0x0152),
    (0x8E, 0x017D), (0x91, 0x2018), (0x92, 0x2019), (0x93, 0x201C), (0x94, 0x201D), (0x95, 0x2022),
    (0x96, 0x2013), (0x97, 0x2014), (0x98, 0x02DC), (0x99, 0x2122), (0x9A, 0x0161), (0x9B, 0x203A),
    (0x9C, 0x0153), (0x9E, 0x017E), (0x9F, 0x0178)]

def replacement : Char := Char.ofNat 0xFFFD

def charOfNumber (n : Nat) : Char :=
  if n = 0 || !n.isValidChar then replacement else Char.ofNat ((legacyCodes.lookup n).getD n)

/-- Drops the semicolon that may end a reference. -/
def dropSemicolon : Text → Text
  | ';' :: rest => rest
  | t => t

/-- The character of a number written in some digits, and the text after it. -/
def digitsReference? (isDigit : Char → Bool) (value : Text → Nat) (t : Text) :
    Option (Text × Text) :=
  if (t.takeWhile isDigit).isEmpty then none
  else some ([charOfNumber (value (t.takeWhile isDigit))], dropSemicolon (t.dropWhile isDigit))

/-- The character of a number after `&#`, and the text after it. -/
def numericReference? (t : Text) : Option (Text × Text) :=
  match t with
  | 'x' :: rest | 'X' :: rest => digitsReference? Text.isHexDigit Text.hexNumber rest
  | t => digitsReference? Char.isDigit (fun ds => (Text.toNat? ds).getD 0) t

/-- A name without a semicolon would go on with the text after it. -/
def goesOn (name rest : Text) : Bool :=
  name.getLast? != some ';' && match rest with
    | c :: _ => c == '=' || c.isAlphanum
    | [] => false

/-- The characters of the reference after an ampersand, and the text after it. In the value of an
attribute, a name without a semicolon is no reference where a letter, a digit or an equals sign
follows. -/
def reference? (inAttribute : Bool) (t : Text) : Option (Text × Text) :=
  match t with
  | '#' :: rest => numericReference? rest
  | _ =>
    match longestReference? t with
    | some (value, n) =>
      if inAttribute && goesOn (t.take n) (t.drop n) then none else some (value, t.drop n)
    | none => none

theorem length_dropSemicolon_le (t : Text) : (dropSemicolon t).length ≤ t.length := by
  unfold dropSemicolon
  split <;> simp

theorem length_digitsReference? {isDigit : Char → Bool} {number : Text → Nat} {t value rest : Text}
    (h : digitsReference? isDigit number t = some (value, rest)) : rest.length ≤ t.length := by
  unfold digitsReference? at h
  split at h
  · cases h
  · cases h
    exact Nat.le_trans (length_dropSemicolon_le _) (Text.length_dropWhile_le _ _)

theorem length_numericReference? {t value rest : Text}
    (h : numericReference? t = some (value, rest)) : rest.length ≤ t.length := by
  unfold numericReference? at h
  split at h
  · have := length_digitsReference? h; simp; omega
  · have := length_digitsReference? h; simp; omega
  · exact length_digitsReference? h

theorem length_reference? {inAttribute : Bool} {t value rest : Text}
    (h : reference? inAttribute t = some (value, rest)) : rest.length ≤ t.length := by
  unfold reference? at h
  split at h
  · have := length_numericReference? h; simp; omega
  · split at h
    · split at h
      · cases h
      · cases h; simp
    · cases h

/-- The text with its references replaced. -/
def decodeReferences (inAttribute : Bool) (t : Text) : Text :=
  match t with
  | [] => []
  | c :: rest =>
    if c == '&' then
      match _h : reference? inAttribute rest with
      | some (value, after) => value ++ decodeReferences inAttribute after
      | none => c :: decodeReferences inAttribute rest
    else c :: decodeReferences inAttribute rest
termination_by t.length
decreasing_by
  · have := length_reference? ‹_›
    simp; omega
  · simp
  · simp

/-- Drops the line break at the front. A reference to one counts if a semicolon closes it. -/
def dropBreak (t : Text) : Text :=
  match t with
  | '\n' :: rest => rest
  | '&' :: rest =>
    match reference? false rest with
    | some (['\n'], after) =>
      if (rest.take (rest.length - after.length)).getLast? = some ';' then after else t
    | _ => t
  | _ => t

theorem length_dropBreak_le (t : Text) : (dropBreak t).length ≤ t.length := by
  unfold dropBreak
  split
  · simp
  · split
    · have := length_reference? ‹_›
      split
      · simp only [List.length_cons]; omega
      · exact Nat.le_refl _
    · exact Nat.le_refl _
  · exact Nat.le_refl _

end PageRules.Html
