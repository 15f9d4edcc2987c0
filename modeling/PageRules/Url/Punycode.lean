import PageRules.Text.Basic

/-! Punycode: labels of domain names in ASCII. The other characters are written in ascending order
as differences, in a number system with digits of several weights. -/

namespace PageRules.Url.Punycode

def digitChar (d : Nat) : Char := Char.ofNat (if d < 26 then 0x61 + d else 0x16 + d)

def digitValue? (c : Char) : Option Nat :=
  let n := c.toNat
  if 0x61 ≤ n && n ≤ 0x7A then some (n - 0x61)
  else if 0x41 ≤ n && n ≤ 0x5A then some (n - 0x41)
  else if c.isDigit then some (n - 0x16)
  else none

/-- The threshold of the digit with index `k`. -/
def threshold (k bias : Nat) : Nat := min 26 (max 1 (k - bias))

def adaptFrom (k delta : Nat) : Nat :=
  if 455 < delta then adaptFrom (k + 36) (delta / 35) else k + 36 * delta / (delta + 38)
termination_by delta

/-- The bias after a difference, where `count` characters are placed. -/
def adapt (first : Bool) (delta count : Nat) : Nat :=
  let delta := if first then delta / 700 else delta / 2
  adaptFrom 0 (delta + delta / count)

/-- The digits of a difference, least weight first. -/
def digits (k bias q : Nat) : List Nat :=
  let t := threshold k bias
  if _h : q < t then [q]
  else (t + (q - t) % (36 - t)) :: digits (k + 36) bias ((q - t) / (36 - t))
termination_by q
decreasing_by
  have : 1 ≤ t := by simp only [t, threshold]; omega
  have : t ≤ 26 := by simp only [t, threshold]; omega
  exact Nat.lt_of_le_of_lt (Nat.div_le_self _ _) (by omega)

structure Encoder where
  /-- The next code point to place. -/
  next : Nat := 128
  delta : Nat := 0
  bias : Nat := 72
  /-- How many characters are placed. -/
  placed : Nat
  first : Bool := true
  output : List Nat := []

/-- Passes one character of the label while the code point `n` is placed. -/
def Encoder.pass (n : Nat) (e : Encoder) (c : Char) : Encoder :=
  if c.toNat < n then { e with delta := e.delta + 1 }
  else if c.toNat = n then
    { e with
      delta := 0, placed := e.placed + 1, first := false
      bias := adapt e.first e.delta (e.placed + 1)
      output := e.output ++ digits 36 e.bias e.delta }
  else e

/-- Places every occurrence of the code point `n`. -/
def Encoder.place (label : Text) (e : Encoder) (n : Nat) : Encoder :=
  let e := label.foldl (Encoder.pass n)
    { e with delta := e.delta + (n - e.next) * (e.placed + 1), next := n }
  { e with delta := e.delta + 1, next := n + 1 }

def isAscii (c : Char) : Bool := c.toNat < 128

/-- The code points of a label that are not ASCII, each once, in ascending order. -/
def extended (label : Text) : List Nat :=
  (((label.filter (!isAscii ·)).map Char.toNat).eraseDups).mergeSort

def encode (label : Text) : Text :=
  let basic := label.filter isAscii
  let e := (extended label).foldl (Encoder.place label) { placed := basic.length }
  basic ++ (if basic.isEmpty then [] else ['-']) ++ e.output.map digitChar

structure Decoder where
  next : Nat := 128
  index : Nat := 0
  bias : Nat := 72
  output : Text
  /-- The index before the difference at hand. -/
  start : Nat := 0
  weight : Nat := 1
  k : Nat := 36

/-- Reads one digit; the last digit of a difference places a character. -/
def Decoder.read (d : Decoder) (digit : Nat) : Option Decoder :=
  let t := threshold d.k d.bias
  let index := d.index + digit * d.weight
  if digit < t then
    let count := d.output.length + 1
    let next := d.next + index / count
    let place := index % count
    if next.isValidChar then
      some { next, index := place + 1, start := place + 1
             bias := adapt (d.start == 0) (index - d.start) count
             output := d.output.insertIdx place (Char.ofNat next) }
    else none
  else some { d with index, weight := d.weight * (36 - t), k := d.k + 36 }

/-- The label that a text encodes. A hyphen at the front sets off no characters. -/
def decode? (t : Text) : Option Text := do
  let tail := Text.afterLast (· == '-') t
  let basic := t.take (t.length - tail.length - 1)
  let ds ← (if basic.isEmpty then t else tail).mapM digitValue?
  let d ← ds.foldlM Decoder.read { output := basic }
  if d.weight = 1 then some d.output else none

end PageRules.Url.Punycode
