import PageRules.Url.Domain

/-! Hosts: domain names, addresses of four and of sixteen bytes, and names without structure. -/

namespace PageRules

inductive UrlError where
  | emptyHost
  | invalidDomainName
  | invalidPort
  | invalidIpv4
  | invalidIpv6
  | invalidDomainCharacter
  | relativeWithoutBase
  | relativeWithOpaqueBase
  deriving DecidableEq

def UrlError.message : UrlError → Text
  | .emptyHost => "empty host".toList
  | .invalidDomainName => "invalid international domain name".toList
  | .invalidPort => "invalid port number".toList
  | .invalidIpv4 => "invalid IPv4 address".toList
  | .invalidIpv6 => "invalid IPv6 address".toList
  | .invalidDomainCharacter => "invalid domain character".toList
  | .relativeWithoutBase => "relative URL without a base".toList
  | .relativeWithOpaqueBase => "relative URL with a cannot-be-a-base base".toList

inductive Host where
  | domain (name : Text)
  | ipv4 (address : Nat)
  | ipv6 (pieces : List Nat)
  deriving DecidableEq

namespace Host

/-- A part of an address as a number. A leading `0x` marks hexadecimal, another leading zero
octal. -/
def ipv4Number? (t : Text) : Option Nat :=
  let value (radix : Nat) (digit? : Char → Option Nat) (ds : Text) : Option Nat :=
    ds.foldlM (fun n c => (digit? c).map (n * radix + ·)) 0
  let decimal? (c : Char) : Option Nat := if c.isDigit then some (c.toNat - 0x30) else none
  let octal? (c : Char) : Option Nat := (decimal? c).filter (· < 8)
  match t with
  | [] => none
  | '0' :: 'x' :: ds | '0' :: 'X' :: ds => value 16 Text.hexValue? ds
  | '0' :: d :: ds => value 8 octal? (d :: ds)
  | ds => value 10 decimal? ds

/-- The parts of a name between dots, without an empty one at its end. -/
def dottedParts (name : Text) : List Text :=
  let parts := Text.splitOn (· == '.') name
  if parts.length > 1 && parts.getLast? == some [] then parts.dropLast else parts

/-- The name ends in a number, so it has to be an address. -/
def endsInNumber (name : Text) : Bool :=
  match (dottedParts name).getLast? with
  | some last => (!last.isEmpty && last.all Char.isDigit) || (ipv4Number? last).isSome
  | none => false

/-- The address that a name spells. Each part but the last is a byte; the last part fills the
bytes that are left. -/
def ipv4? (name : Text) : Option Nat := do
  let parts := dottedParts name
  guard (parts.length ≤ 4)
  let numbers ← parts.mapM ipv4Number?
  let last ← numbers.getLast?
  let bytes := numbers.dropLast
  guard (bytes.all (· ≤ 255) && last < Nat.pow 256 (4 - bytes.length))
  return bytes.foldl (· * 256 + ·) 0 * Nat.pow 256 (4 - bytes.length) + last

/-- A decimal byte without leading zeros. -/
def byte? (t : Text) : Option Nat := do
  guard (t.length ≤ 3 && !(t.length > 1 && t.head? == some '0'))
  (Text.toNat? t).filter (· ≤ 255)

def piece? (t : Text) : Option Nat := do
  guard (1 ≤ t.length && t.length ≤ 4)
  Text.hexNumber? t

/-- The pieces between colons; the last may be an address of four bytes. -/
def pieces? (dotted : Bool) : List Text → Option (List Nat)
  | [] => some []
  | [t] =>
    if dotted && t.any (· == '.') then do
      let [a, b, c, d] ← (Text.splitOn (· == '.') t).mapM byte? | none
      return [a * 256 + b, c * 256 + d]
    else (piece? t).map ([·])
  | t :: ts => do return (← piece? t) :: (← pieces? dotted ts)

/-- The text before and after the first two colons. -/
def splitGap : Text → Option (Text × Text)
  | ':' :: ':' :: rest => some ([], rest)
  | c :: rest => (splitGap rest).map fun (before, after) => (c :: before, after)
  | [] => none

/-- The pieces of an address of sixteen bytes. Two colons stand for one or more zero pieces. -/
def ipv6? (t : Text) : Option (List Nat) :=
  let parts (t : Text) := if t.isEmpty then [] else Text.splitOn (· == ':') t
  match splitGap t with
  | some (before, after) => do
    let front ← pieces? false (parts before)
    let back ← pieces? true (parts after)
    guard (front.length + back.length ≤ 7)
    return front ++ List.replicate (8 - front.length - back.length) 0 ++ back
  | none => (pieces? true (parts t)).filter (·.length = 8)

/-- An address in brackets. -/
def bracketed? (t : Text) : Except UrlError Host :=
  if t.getLast? != some ']' then .error .invalidIpv6
  else match ipv6? t.dropLast with
    | some pieces => .ok (.ipv6 pieces)
    | none => .error .invalidIpv6

/-- The host of a URL with a special scheme. -/
def read (t : Text) : Except UrlError Host :=
  match t with
  | '[' :: rest => bracketed? rest
  | _ =>
    match (Text.ofBytes? (Url.percentDecode (Text.bytes t))).bind Url.Domain.toAscii? with
    | none => .error .invalidDomainName
    | some [] => .error .emptyHost
    | some name =>
      if endsInNumber name then
        match ipv4? name with
        | some address => .ok (.ipv4 address)
        | none => .error .invalidIpv4
      else .ok (.domain name)

def isOpaqueForbidden (c : Char) : Bool :=
  ['\x00', '\t', '\n', '\r', ' ', '#', '/', ':', '<', '>', '?', '@', '[', '\\', ']', '^',
    '|'].contains c

/-- The host of a URL with any other scheme. -/
def readOpaque (t : Text) : Except UrlError Host :=
  match t with
  | '[' :: rest => bracketed? rest
  | _ =>
    if t.any isOpaqueForbidden then .error .invalidDomainCharacter
    else .ok (.domain (Url.percentEncode Url.isControl t))

def renderIpv4 (address : Nat) : Text :=
  Text.join ['.'] ([3, 2, 1, 0].map fun i => Text.ofNat (address / Nat.pow 256 i % 256))

/-- The place and the length of the first longest run of zeros, where `place` counts the pieces
passed, `run` the zeros just before and `best` is the answer so far. -/
def longestZeros (place run : Nat) (best : Nat × Nat) : List Nat → Nat × Nat
  | [] => best
  | p :: ps =>
    let run := if p = 0 then run + 1 else 0
    longestZeros (place + 1) run (if best.2 < run then (place + 1 - run, run) else best) ps

def renderPieces (ps : List Nat) : Text := Text.join [':'] (ps.map (Nat.toDigits 16))

/-- The first longest run of at least two zero pieces is written as two colons. -/
def renderIpv6 (pieces : List Nat) : Text :=
  let (place, run) := longestZeros 0 0 (0, 0) pieces
  if run < 2 then renderPieces pieces
  else renderPieces (pieces.take place) ++ [':', ':'] ++ renderPieces (pieces.drop (place + run))

def render : Host → Text
  | .domain name => name
  | .ipv4 address => renderIpv4 address
  | .ipv6 pieces => '[' :: renderIpv6 pieces ++ [']']

end Host
end PageRules
