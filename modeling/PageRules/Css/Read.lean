import PageRules.Css.Selector

/-! Reading selectors. -/

namespace PageRules.Css

open Component (skip)

/-! ### Attributes -/

/-- Attributes whose values have no letter case in HTML. -/
def caselessAttributes : List String :=
  ["accept", "accept-charset", "align", "alink", "axis", "bgcolor", "charset", "checked", "clear",
    "codetype", "color", "compact", "declare", "defer", "dir", "direction", "disabled", "enctype",
    "face", "frame", "hreflang", "http-equiv", "lang", "language", "link", "media", "method",
    "multiple", "nohref", "noresize", "noshade", "nowrap", "readonly", "rel", "rev", "rules",
    "scope", "scrolling", "selected", "shape", "target", "text", "type", "valign", "valuetype",
    "vlink"]

def caseRuleOf (name : Text) (anyVocabulary : Bool) : CaseRule :=
  if !anyVocabulary && caselessAttributes.any (fun n => n.toList == Text.lower name) then
    .insensitiveInHtml
  else .sensitive

def comparison? : Component → Option Comparison
  | .token (.delim '=') => some .equal
  | .token (.comparison c) =>
    match c with
    | '~' => some .includes
    | '|' => some .dash
    | '^' => some .starts
    | '$' => some .ends
    | '*' => some .contains
    | _ => none
  | _ => none

/-- The rule that a flag after the value sets. -/
def caseFlag? (default : CaseRule) (cs : List Component) : Option CaseRule :=
  match skip cs with
  | [] => some default
  | .token (.ident flag) :: rest =>
    if !(skip rest).isEmpty then none
    else if Text.eqIgnoreCase flag ['i'] then some .insensitive
    else if Text.eqIgnoreCase flag ['s'] then some .sensitive
    else none
  | _ => none

def attributeTest? (name : Text) (anyVocabulary : Bool) (cs : List Component) : Option Simple :=
  match skip cs with
  | [] => some (.attribute name anyVocabulary .present)
  | op :: rest => do
    let c ← comparison? op
    let (value, rest) ← match skip rest with
      | .token (.ident t) :: rest | .token (.string t) :: rest => some (t, rest)
      | _ => none
    let case ← caseFlag? (caseRuleOf name anyVocabulary) rest
    return .attribute name anyVocabulary (.compare c value case)

/-- The selector inside brackets. -/
def attribute? (cs : List Component) : Option Simple :=
  match skip cs with
  | .token (.ident _) :: .token (.delim '|') :: _ => none
  | .token (.ident name) :: rest => attributeTest? name false rest
  | .token (.delim '*') :: .token (.delim '|') :: .token (.ident name) :: rest =>
    attributeTest? name true rest
  | .token (.delim '|') :: .token (.ident name) :: rest => attributeTest? name false rest
  | _ => none

/-! ### Places -/

/-- The digits after `n-`, as a negative number. -/
def dashDigits? (unit : Text) : Option Int :=
  match unit with
  | n :: '-' :: ds =>
    if n.toLower == 'n' then (Text.toNat? ds).map fun d => saturate (-(d : Int)) else none
  | _ => none

/-- A number without a sign, and nothing after it. -/
def unsigned? (cs : List Component) : Option Int :=
  match skip cs with
  | .token (.number ⟨false, some b⟩) :: rest => if (skip rest).isEmpty then some b else none
  | _ => none

/-- The part after `n`. -/
def offset? (cs : List Component) : Option Int :=
  match skip cs with
  | [] => some 0
  | .token (.delim '+') :: rest => unsigned? rest
  | .token (.delim '-') :: rest => (unsigned? rest).map (-·)
  | .token (.number ⟨true, some b⟩) :: rest => if (skip rest).isEmpty then some b else none
  | _ => none

/-- The places that a step and a name such as `n`, `n-` or `n-1` begin. -/
def stepped? (a : Int) (name : Text) (cs : List Component) : Option Places :=
  if Text.eqIgnoreCase name ['n'] then (offset? cs).map (⟨a, ·⟩)
  else if Text.eqIgnoreCase name ['n', '-'] then (unsigned? cs).map fun b => ⟨a, -b⟩
  else if (skip cs).isEmpty then (dashDigits? name).map (⟨a, ·⟩)
  else none

/-- The places inside the parentheses of a pseudo-class. -/
def places? (cs : List Component) : Option Places :=
  match skip cs with
  | .token (.number ⟨_, some b⟩) :: rest => if (skip rest).isEmpty then some ⟨0, b⟩ else none
  | .token (.dimension ⟨_, some a⟩ unit) :: rest => stepped? a unit rest
  | .token (.ident name) :: rest =>
    if Text.eqIgnoreCase name "even".toList then
      if (skip rest).isEmpty then some ⟨2, 0⟩ else none
    else if Text.eqIgnoreCase name "odd".toList then
      if (skip rest).isEmpty then some ⟨2, 1⟩ else none
    else match name with
      | '-' :: name => stepped? (-1) name rest
      | name => stepped? 1 name rest
  | .token (.delim '+') :: .token (.ident name) :: rest => stepped? 1 name rest
  | _ => none

/-! ### Pseudo-classes -/

def first : Places := ⟨0, 1⟩

/-- The selectors that a pseudo-class without arguments stands for. -/
def pseudoClass? (name : Text) : Option (List Simple) :=
  match String.ofList (Text.lower name) with
  | "first-child" => some [.nth first false false]
  | "last-child" => some [.nth first false true]
  | "only-child" => some [.nth first false false, .nth first false true]
  | "first-of-type" => some [.nth first true false]
  | "last-of-type" => some [.nth first true true]
  | "only-of-type" => some [.nth first true false, .nth first true true]
  | "root" => some [.root]
  | "empty" => some [.empty]
  | "scope" => some [.scope]
  | _ => none

/-- What a list of selectors may hold. -/
structure ListKind where
  /-- A selector that cannot be read matches nothing. -/
  forgiving : Bool := false
  /-- Each selector starts from an anchor. -/
  relative : Bool := false
  /-- The list is inside a relative one. -/
  insideRelative : Bool := false

/-- A pseudo-class with arguments: the places among siblings, or a list of selectors. -/
inductive FunctionKind where
  | nth (ofType fromEnd : Bool)
  | list (kind : ListKind) (simple : List Complex → Simple)

/-- The pseudo-class of a name inside a list. A relative list holds no other relative list. -/
def functionKind? (k : ListKind) (name : Text) : Option FunctionKind :=
  match String.ofList (Text.lower name) with
  | "nth-child" => some (.nth false false)
  | "nth-last-child" => some (.nth false true)
  | "nth-of-type" => some (.nth true false)
  | "nth-last-of-type" => some (.nth true true)
  | "not" => some (.list { insideRelative := k.insideRelative } .not)
  | "is" | "where" => some (.list { forgiving := true, insideRelative := k.insideRelative } .any)
  | "has" =>
    if k.insideRelative then none
    else some (.list { relative := true, insideRelative := true } .has)
  | _ => none

/-! ### Lists -/

/-- Where reading stands in a list. -/
structure Reading where
  /-- The selectors read, last first. -/
  finished : List Complex := []
  /-- What stands in front of the compound at hand. -/
  left : Option (Complex × Combinator) := none
  /-- The compound at hand, last first. -/
  compound : List Simple := []
  /-- White space was read after the compound. -/
  white : Bool := false
  /-- A combinator may still stand in front of everything. -/
  mayLead : Bool := false
  /-- The selector at hand cannot be read, and its rest is passed over. -/
  skipping : Bool := false
  /-- The next component belongs to what could not be read, and may be bad. -/
  unread : Bool := false

namespace Reading

/-- The start of a selector. -/
def start (k : ListKind) (finished : List Complex) : Reading where
  finished := finished
  left := if k.relative then some (.compound [.anchor], .descendant) else none
  mayLead := k.relative

/-- The selector at hand without a combinator after it. -/
def selector (r : Reading) : Complex :=
  match r.left with
  | some (left, c) => .combine left c r.compound.reverse
  | none => .compound r.compound.reverse

/-- Nothing could be read. A forgiving list passes over the rest of the selector at hand. -/
def giveUp {α : Type} (r : Reading) (k : ListKind) (unread : Bool) (f : Reading → Option α) :
    Option α :=
  if k.forgiving then f { r with skipping := true, unread } else none

/-- Goes on with what was read, if it could be read. -/
def goOn {α : Type} (r : Reading) (k : ListKind) (next : Option Reading)
    (f : Reading → Option α) : Option α :=
  match next with
  | some r => f r
  | none => r.giveUp k false f

/-- Ends the selector at hand. It ends neither empty nor on a combinator. -/
def finish? (r : Reading) (k : ListKind) : Option (List Complex) :=
  if r.skipping || r.compound.isEmpty then
    if k.forgiving then some (.nothing :: r.finished) else none
  else some (r.selector :: r.finished)

def combine? (r : Reading) (c : Combinator) : Option Reading :=
  if !r.compound.isEmpty then
    some { r with left := some (r.selector, c), compound := [], white := false }
  else if r.mayLead then
    some { r with left := r.left.map fun (left, _) => (left, c), mayLead := false, white := false }
  else none

/-- The reading in front of a simple selector; white space turns out to be a combinator. -/
def settle (r : Reading) : Reading :=
  if r.white && !r.compound.isEmpty then
    { r with left := some (r.selector, .descendant), compound := [], white := false }
  else { r with white := false, mayLead := false }

def add (r : Reading) (l : List Simple) : Reading :=
  let r := r.settle
  { r with compound := l.reverse ++ r.compound }

/-- A compound begins here. -/
def begins (r : Reading) : Bool := r.settle.compound.isEmpty

/-- Reads a type selector, which begins a compound. -/
def addType? (r : Reading) (l : List Simple) : Option Reading :=
  if r.begins then some (r.add l) else none

end Reading

/-- Reads a list of selectors to its end. -/
def readList (k : ListKind) (r : Reading) (cs : List Component) : Option (List Complex) :=
  match cs with
  | [] => (r.finish? k).map List.reverse
  | .token .comma :: rest => (r.finish? k).bind fun l => readList k (.start k l) rest
  | c :: rest =>
    if r.skipping then
      if c.isBad && !r.unread then none else readList k { r with unread := false } rest
    else match c, rest with
      | .token .white, rest => readList k { r with white := true } rest
      | .token (.delim '>'), rest => r.goOn k (r.combine? .child) (readList k · rest)
      | .token (.delim '+'), rest => r.goOn k (r.combine? .next) (readList k · rest)
      | .token (.delim '~'), rest => r.goOn k (r.combine? .later) (readList k · rest)
      | .token (.ident _), .token (.delim '|') :: rest => r.goOn k none (readList k · rest)
      | .token (.ident name), rest => r.goOn k (r.addType? [.type name]) (readList k · rest)
      | .token (.delim '*'), .token (.delim '|') :: .token (.delim '*') :: rest =>
        r.goOn k (r.addType? [.universal]) (readList k · rest)
      | .token (.delim '*'), .token (.delim '|') :: .token (.ident name) :: rest =>
        r.goOn k (r.addType? [.type name]) (readList k · rest)
      | .token (.delim '*'), .token (.delim '|') :: rest =>
        r.giveUp k r.begins (readList k · rest)
      | .token (.delim '*'), rest => r.goOn k (r.addType? [.universal]) (readList k · rest)
      | .token (.delim '|'), .token (.delim '*') :: rest =>
        r.goOn k (r.addType? [.noVocabulary]) (readList k · rest)
      | .token (.delim '|'), .token (.ident name) :: rest =>
        r.goOn k (r.addType? [.noVocabulary, .type name]) (readList k · rest)
      | .token (.delim '|'), rest => r.giveUp k r.begins (readList k · rest)
      | .token (.id name), rest => readList k (r.add [.id name]) rest
      | .token (.delim '.'), .token (.ident name) :: rest =>
        readList k (r.add [.className name]) rest
      | .token (.delim '.'), rest => r.giveUp k true (readList k · rest)
      | .block (.bracket '[') inside, rest =>
        r.goOn k ((attribute? inside).map fun s => r.add [s]) (readList k · rest)
      | .token .colon, .token (.ident name) :: rest =>
        r.goOn k ((pseudoClass? name).map r.add) (readList k · rest)
      | .token .colon, .block (.function name) inside :: rest =>
        let simple := match functionKind? k name with
          | some (.nth ofType fromEnd) => (places? inside).map (Simple.nth · ofType fromEnd)
          | some (.list kind simple) => (readList kind (.start kind []) inside).map simple
          | none => none
        r.goOn k (simple.map fun s => r.add [s]) (readList k · rest)
      | .token .colon, .token .colon :: rest => r.giveUp k true (readList k · rest)
      | .token .colon, rest => r.giveUp k true (readList k · rest)
      | c, rest =>
        if c.isBad then none else r.goOn k none (readList k · rest)

/-- The selector that a text spells, if it can be read. -/
def Selector.read? (t : Text) : Option Selector := readList {} {} (components t)

end PageRules.Css
