import PageRules.Glob.Token

/-! Reading a pattern. The reader keeps the tokens of the branch at hand and, for every group of
alternatives that is still open, the branches finished in it and the tokens in front of it. -/

namespace PageRules.Glob

/-- A group of alternatives that is still open; tokens and branches are held last first. -/
structure Group where
  before : List Token
  finished : List (List Token)

structure Reader where
  /-- The tokens of the branch at hand, last first. -/
  tokens : List Token := []
  groups : List Group := []

namespace Reader

def push (r : Reader) (t : Token) : Reader := { r with tokens := t :: r.tokens }

def openGroup (r : Reader) : Reader := ⟨[], ⟨r.tokens, []⟩ :: r.groups⟩

def closeGroup (r : Reader) : Except Error Reader :=
  match r.groups with
  | [] => .error .unopenedChoice
  | g :: groups =>
    .ok ⟨.choice (r.tokens.reverse :: g.finished).reverse :: g.before, groups⟩

/-- A comma ends a branch inside a group and is an ordinary character elsewhere. -/
def comma (r : Reader) : Reader :=
  match r.groups with
  | [] => r.push (.literal ',')
  | g :: groups => ⟨[], { g with finished := r.tokens.reverse :: g.finished } :: groups⟩

def finish (r : Reader) : Except Error (List Token) :=
  match r.groups with
  | [] => .ok r.tokens.reverse
  | _ :: _ => .error .unclosedChoice

/-- A deep token takes the place of the separator in front of it, and a leading or trailing one
absorbs it. -/
def pushDeep (r : Reader) (t : Token) : Reader :=
  match r.tokens with
  | .deepFirst :: _ => r
  | .deepLast :: _ => r
  | _ :: before => { r with tokens := t :: before }
  | [] => r.push t

/-- Two stars, where `prev` is the character before them and `rest` the text after them. Gives
what they add and whether they take a separator after them. They cross segments only between
separators or the ends of the pattern or of a branch. -/
def doubleStar (prev : Option Char) (r : Reader) (rest : Text) : Reader × Bool :=
  let plain := ((r.push .run).push .run, false)
  let bounded := prev == some '/' || (!r.groups.isEmpty && (prev == some ',' || prev == some '{'))
  if r.tokens.isEmpty then
    match rest with
    | [] => (r.push .deepFirst, false)
    | c :: _ => if c == '/' then (r.push .deepFirst, true) else plain
  else if !bounded then plain
  else match rest with
    | [] => (r.pushDeep .deepLast, false)
    | c :: _ =>
      if !r.groups.isEmpty && (c == ',' || c == '}') then (r.pushDeep .deepLast, false)
      else if c == '/' then (r.pushDeep .deepBetween, true)
      else plain

end Reader

/-- Where a class stands: whether a character was read, and whether a dash waits for its end. -/
structure ClassState where
  ranges : List (Char × Char) := []
  first : Bool := true
  dash : Bool := false

/-- The next character of a class other than the closing bracket. -/
def ClassState.add (s : ClassState) (c : Char) : Except Error ClassState :=
  if c == '-' && !s.first && !s.dash then .ok { s with dash := true }
  else if s.dash then
    match s.ranges with
    | (low, _) :: more =>
      if c < low then .error (.invalidRange low c) else .ok ⟨(low, c) :: more, false, false⟩
    | [] => .ok ⟨[(c, c)], false, false⟩
  else .ok ⟨(c, c) :: s.ranges, false, false⟩

/-- The ranges of a class and the text after its closing bracket. -/
def readClass (s : ClassState) : Text → Except Error (List (Char × Char) × Text)
  | [] => .error .unclosedClass
  | c :: rest =>
    if c == ']' && !s.first then
      .ok ((if s.dash then ('-', '-') :: s.ranges else s.ranges).reverse, rest)
    else match s.add c with
      | .ok s => readClass s rest
      | .error e => .error e

theorem length_readClass {s : ClassState} {t rest : Text} {ranges : List (Char × Char)}
    (h : readClass s t = .ok (ranges, rest)) : rest.length < t.length := by
  induction t generalizing s with
  | nil => simp [readClass] at h
  | cons c cs ih =>
    unfold readClass at h
    split at h
    · cases h; simp
    · split at h
      · have := ih h; simp; omega
      · cases h

/-- Whether a class is negated, and the text after the mark that says so. -/
def negation : Text → Bool × Text
  | [] => (false, [])
  | c :: rest => if c == '!' || c == '^' then (true, rest) else (false, c :: rest)

theorem length_negation (t : Text) : (negation t).2.length ≤ t.length := by
  cases t with
  | nil => simp [negation]
  | cons c cs =>
    simp only [negation]
    split <;> simp

def readFrom (prev : Option Char) (r : Reader) (t : Text) : Except Error (List Token) :=
  match t with
  | [] => r.finish
  | '?' :: rest => readFrom (some '?') (r.push .any) rest
  | '*' :: '*' :: rest =>
    match r.doubleStar prev rest with
    | (r, true) => readFrom (some '/') r (rest.drop 1)
    | (r, false) => readFrom (some '*') r rest
  | '*' :: rest => readFrom (some '*') (r.push .run) rest
  | '[' :: rest =>
    match _h : readClass {} (negation rest).2 with
    | .ok (ranges, after) =>
      readFrom (some ']') (r.push (.charClass (negation rest).1 ranges)) after
    | .error e => .error e
  | '{' :: rest => readFrom (some '{') r.openGroup rest
  | '}' :: rest =>
    match r.closeGroup with
    | .ok r => readFrom (some '}') r rest
    | .error e => .error e
  | ',' :: rest => readFrom (some ',') r.comma rest
  | '\\' :: c :: rest => readFrom (some c) (r.push (.literal c)) rest
  | ['\\'] => .error .danglingEscape
  | c :: rest => readFrom (some c) (r.push (.literal c)) rest
termination_by t.length
decreasing_by
  all_goals simp
  all_goals try omega
  have := length_readClass ‹_›
  have := length_negation rest
  omega

/-- The tokens of a pattern. -/
def read (pattern : Text) : Except Error (List Token) := readFrom none {} pattern

end PageRules.Glob
