import PageRules.Url.Domain.Label
import PageRules.Url.Domain.Mapping
import PageRules.Url.Percent
import PageRules.Url.Punycode

/-! Domain names in ASCII. Every character becomes what it stands for, the name takes its canonical
form, and labels with characters outside ASCII are written in punycode. -/

namespace PageRules.Url.Domain

/-- Characters that never stand in a domain name. -/
def isForbidden (c : Char) : Bool :=
  c.toNat ≤ 0x20 || c.toNat == 0x7F ||
    ['%', '#', '/', ':', '<', '>', '?', '@', '[', '\\', ']', '^', '|'].contains c

def acePart : Text := "xn--".toList

/-- The longest label that is encoded, and the longest one that is decoded. -/
def maxEncoded : Nat := 1000
def maxDecoded : Nat := 2000

/-- The label that stands behind a written one. Punycode must encode a label that is not ASCII and
that stands for itself. -/
def readLabel? (label : Text) : Option Text :=
  match acePart.isPrefixOf? label with
  | none => some label
  | some encoded => do
    guard (encoded.all Punycode.isAscii && encoded.length ≤ maxDecoded)
    let decoded ← Punycode.decode? encoded
    guard (!decoded.all Punycode.isAscii && decoded.all isPlain &&
      Text.canonical decoded == decoded)
    return decoded

def writeLabel (label : Text) : Text :=
  if label.all Punycode.isAscii then label else acePart ++ Punycode.encode label

/-- The label can be written; none of its neighbours matter but for the direction of the name. -/
def acceptsLabel (backward : Bool) (label : Text) : Bool :=
  isValidLabel label && (!backward || keepsDirection label) &&
    (label.all Punycode.isAscii || label.length ≤ maxEncoded)

/-- The ASCII form of a domain name, if it has one. -/
def toAscii? (name : Text) : Option Text := do
  let mapped ← map? name
  let labels ← (Text.splitOn (· == '.') (Text.canonical mapped)).mapM readLabel?
  guard (!labels.any (·.any isForbidden) && labels.all (acceptsLabel (labels.any runsBackward)))
  return Text.join ['.'] (labels.map writeLabel)

end PageRules.Url.Domain
