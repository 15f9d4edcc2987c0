import PageRules.Glob.Read
import PageRules.Text.Bytes

/-! Matching a pattern against the bytes of a path. Each token leads from the places of the path that
the tokens before it may lead to on to others; the pattern matches when it may lead to the end. -/

namespace PageRules.Glob

abbrev Bytes := List UInt8

def slash : UInt8 := 47

/-- Places of a path: whether the place in front of it is one, and for each byte whether the place
behind it is one. -/
structure Places where
  front : Bool
  behind : List (UInt8 × Bool)

namespace Places

/-- The place in front of a path alone. -/
def start (path : Bytes) : Places := ⟨true, path.map (·, false)⟩

/-- No place of the same path. -/
def none (s : Places) : Places := ⟨false, s.behind.map fun (b, _) => (b, false)⟩

/-- The places of either; both are places of one path. -/
def union (s t : Places) : Places :=
  ⟨s.front || t.front, List.zipWith (fun (b, here) (_, there) => (b, here || there)) s.behind t.behind⟩

/-- The end of the path is one of the places. -/
def atEnd (s : Places) : Bool := ((s.behind.getLast?).map (·.2)).getD s.front

/-- The places behind one byte that `admits` holds of. -/
def byte (admits : UInt8 → Bool) (s : Places) : Places := ⟨false, go s.front s.behind⟩
where
  go : Bool → List (UInt8 × Bool) → List (UInt8 × Bool)
    | _, [] => []
    | here, (b, next) :: rest => (b, here && admits b) :: go next rest

/-- The places behind any number of bytes that `admits` holds of. -/
def bytes (admits : UInt8 → Bool) (s : Places) : Places := ⟨s.front, go s.front s.behind⟩
where
  go : Bool → List (UInt8 × Bool) → List (UInt8 × Bool)
    | _, [] => []
    | here, (b, next) :: rest =>
      let next := next || (here && admits b)
      (b, next) :: go next rest

/-- The places themselves, and those behind any number of bytes and a separator. -/
def segments (s : Places) : Places := ⟨s.front, go s.front s.behind⟩
where
  go : Bool → List (UInt8 × Bool) → List (UInt8 × Bool)
    | _, [] => []
    | passed, (b, next) :: rest => (b, next || (passed && b == slash)) :: go (passed || next) rest

end Places

/-- The bytes that a range of a class admits. Ends of several bytes are taken byte by byte: only
the last byte of the first end and the first byte of the last end bound a run. -/
def rangeAdmits (range : Char × Char) (b : UInt8) : Bool :=
  let low := String.utf8EncodeChar range.1
  let high := String.utf8EncodeChar range.2
  low.contains b || high.contains b ||
    (range.1 != range.2 && match low.getLast?, high.head? with
      | some first, some last => first ≤ b && b ≤ last
      | _, _ => false)

def classAdmits (negated : Bool) (ranges : List (Char × Char)) (b : UInt8) : Bool :=
  ranges.any (rangeAdmits · b) != negated

mutual

/-- The token stands for nothing: a choice without a branch that stands for something. -/
def Token.isVoid : Token → Bool
  | .choice branches => allVoid branches
  | _ => false

def sequenceVoid : List Token → Bool
  | [] => true
  | t :: ts => t.isVoid && sequenceVoid ts

def allVoid : List (List Token) → Bool
  | [] => true
  | b :: bs => sequenceVoid b && allVoid bs

end

mutual

/-- The places that a token leads to. -/
def Token.lead : Token → Places → Places
  | .literal c, s => (String.utf8EncodeChar c).foldl (fun s b => s.byte (· == b)) s
  | .any, s => s.byte (· != slash)
  | .run, s => s.bytes (· != slash)
  | .deepFirst, s => s.segments
  | .deepLast, s => (s.byte (· == slash)).bytes fun _ => true
  | .deepBetween, s => (s.byte (· == slash)).segments
  | .charClass negated ranges, s => s.byte (classAdmits negated ranges)
  | .choice branches, s => if allVoid branches then s else leadAny branches s

/-- The places that tokens in a row lead to. -/
def leadAll : List Token → Places → Places
  | [], s => s
  | t :: ts, s => leadAll ts (t.lead s)

/-- The places that one of the branches that stand for something leads to. -/
def leadAny : List (List Token) → Places → Places
  | [], s => s.none
  | b :: bs, s => if sequenceVoid b then leadAny bs s else (leadAll b s).union (leadAny bs s)

end

/-- A lone `**` matches everything. -/
def matchesTokens (tokens : List Token) (path : Bytes) : Bool :=
  match tokens with
  | [.deepFirst] => true
  | _ => (leadAll tokens (.start path)).atEnd

end PageRules.Glob

namespace PageRules

/-- A pattern together with the tokens it reads as. -/
structure Glob where
  pattern : Text
  tokens : List Glob.Token
  read_eq : Glob.read pattern = .ok tokens

namespace Glob

def ofPattern (pattern : Text) : Except Error Glob :=
  match h : read pattern with
  | .ok tokens => .ok ⟨pattern, tokens, h⟩
  | .error e => .error e

def matchesPath (g : Glob) (path : Text) : Bool := matchesTokens g.tokens path.bytes

@[ext] theorem ext {g h : Glob} (e : g.pattern = h.pattern) : g = h := by
  obtain ⟨p, s, hs⟩ := g
  obtain ⟨q, t, ht⟩ := h
  cases e
  have := hs.symm.trans ht
  cases this
  rfl

instance : DecidableEq Glob := fun g h =>
  if e : g.pattern = h.pattern then isTrue (ext e) else isFalse fun he => e (he ▸ rfl)

end Glob
end PageRules
