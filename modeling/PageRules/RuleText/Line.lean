import PageRules.RuleText.Block

/-! Lines of a body. Holes are cut out first, and what is left is split at line breaks. A field
line ends in option groups that white space sets apart from the selector. -/

namespace PageRules.RuleText

/-- The positions from `start` up to, but not including, `stop`. -/
structure Hole where
  start : Nat
  stop : Nat
  deriving DecidableEq

def Hole.covers (h : Hole) (n : Nat) : Bool := h.start ≤ n && n < h.stop

/-- Puts a character in front of pieces, where it stands directly before the first of them or
begins a piece of its own. -/
def Fragment.attach (pos : Nat) (c : Char) : List Fragment → List Fragment
  | [] => [⟨pos, [c]⟩]
  | f :: fs => if f.start == pos + 1 then ⟨pos, c :: f.chars⟩ :: fs else ⟨pos, [c]⟩ :: f :: fs

/-- The runs of characters that no hole covers, from the position `pos` on. -/
def uncovered (holes : List Hole) (pos : Nat) : Text → List Fragment
  | [] => []
  | c :: rest =>
    if holes.any (·.covers pos) then uncovered holes (pos + 1) rest
    else Fragment.attach pos c (uncovered holes (pos + 1) rest)

/-- The lines of a text, from the position `pos` on. -/
def linesFrom (pos : Nat) : Text → List Fragment
  | [] => [⟨pos, []⟩]
  | c :: rest =>
    if c == '\n' then ⟨pos, []⟩ :: linesFrom (pos + 1) rest
    else match linesFrom (pos + 1) rest with
      | f :: fs => ⟨pos, c :: f.chars⟩ :: fs
      | [] => [⟨pos, [c]⟩]

/-- The lines of a fragment outside the holes. -/
def linesExcluding (f : Fragment) (holes : List Hole) : List Fragment :=
  (uncovered holes f.start f.chars).flatMap fun run => linesFrom run.start run.chars

/-- The trimmed contents of the bracket groups; a group ends at the first closing bracket. -/
def optionGroups (t : Text) : List Text :=
  match _h : Text.splitOnce (· == '[') t with
  | none => []
  | some (_, rest) =>
    match _h : Text.splitOnce (· == ']') rest with
    | none => []
    | some (inner, after) => Text.trim inner :: optionGroups after
termination_by t.length
decreasing_by
  have := Text.length_splitOnce ‹Text.splitOnce (· == '[') t = _›
  have := Text.length_splitOnce ‹Text.splitOnce (· == ']') rest = _›
  omega

/-- In a text read from its end, the part before the bracket that opens a group whose closing
bracket was read, where `depth` more groups are open. -/
def beforeGroup? (depth : Nat) : Text → Option Text
  | [] => none
  | ']' :: rest => beforeGroup? (depth + 1) rest
  | '[' :: rest =>
    match depth with
    | 0 => some rest
    | depth + 1 => beforeGroup? depth rest
  | _ :: rest => beforeGroup? depth rest

theorem length_beforeGroup? {depth : Nat} {t before : Text}
    (h : beforeGroup? depth t = some before) : before.length < t.length := by
  fun_induction beforeGroup? depth t with
  | case1 => cases h
  | case2 _ _ ih => have := ih h; simp; omega
  | case3 => cases h; simp
  | case4 _ _ ih => have := ih h; simp; omega
  | case5 _ _ _ _ _ ih => have := ih h; simp; omega

/-- White space or nothing stands at the end. -/
def standsApart : Text → Bool
  | [] => true
  | c :: _ => Text.isSpace c

/-- In a text read from its end, the part before the last run of groups that stands apart. `best`
is the answer as long as no group further to the front stands apart. -/
def peelGroups (best t : Text) : Text :=
  match t with
  | ']' :: rest =>
    match _h : beforeGroup? 0 rest with
    | some before =>
      peelGroups (if standsApart before then before else best) (before.dropWhile Text.isSpace)
    | none => best
  | _ => best
termination_by t.length
decreasing_by
  have := length_beforeGroup? ‹_›
  have := Text.length_dropWhile_le Text.isSpace before
  simp; omega

/-- The selector and the option groups of what follows the colon of a field line. Brackets that
touch the selector belong to it. -/
def splitField (t : Text) : Text × List Text :=
  let t := Text.trimEnd t
  let selector := (peelGroups t.reverse t.reverse).reverse
  (Text.trim selector, optionGroups (t.drop selector.length))

end PageRules.RuleText
