import PageRules.Text.Bytes

/-! Percent encoding. Each part of a URL has its own set of characters that must be encoded. -/

namespace PageRules.Url

/-- Controls and everything outside ASCII. -/
def isControl (c : Char) : Bool := c.toNat < 0x20 || 0x7E < c.toNat

def encodesFragment (c : Char) : Bool := isControl c || [' ', '"', '<', '>', '\x60'].contains c

def encodesQuery (c : Char) : Bool := isControl c || [' ', '"', '#', '<', '>'].contains c

def encodesSpecialQuery (c : Char) : Bool := encodesQuery c || c == '\''

def encodesPath (c : Char) : Bool :=
  encodesFragment c || ['#', '?', '\x7b', '\x7d'].contains c

def encodesUserinfo (c : Char) : Bool :=
  encodesPath c || ['/', ':', ';', '=', '@', '[', '\\', ']', '^', '|'].contains c

def hexDigit (n : Nat) : Char := (Nat.digitChar n).toUpper

def encodeByte (b : UInt8) : Text := ['%', hexDigit (b.toNat / 16), hexDigit (b.toNat % 16)]

def encodeChar (encodes : Char → Bool) (c : Char) : Text :=
  if encodes c then (String.utf8EncodeChar c).flatMap encodeByte else [c]

def percentEncode (encodes : Char → Bool) (t : Text) : Text := t.flatMap (encodeChar encodes)

/-- The value of a byte that is a hexadecimal digit. -/
def hexByte? (b : UInt8) : Option Nat := Text.hexValue? (Char.ofNat b.toNat)

/-- Decodes every percent sign that two hexadecimal digits follow. -/
def percentDecode : List UInt8 → List UInt8
  | 37 :: a :: b :: rest =>
    match hexByte? a, hexByte? b with
    | some x, some y => UInt8.ofNat (x * 16 + y) :: percentDecode rest
    | _, _ => 37 :: percentDecode (a :: b :: rest)
  | b :: rest => b :: percentDecode rest
  | [] => []

@[simp] theorem percentEncode_nil (encodes : Char → Bool) : percentEncode encodes [] = [] := rfl

@[simp] theorem percentEncode_append (encodes : Char → Bool) (s t : Text) :
    percentEncode encodes (s ++ t) = percentEncode encodes s ++ percentEncode encodes t :=
  List.flatMap_append

end PageRules.Url
