import PageRules.Json.Basic

/-! Reading JSON text, strictly by its grammar. A reader gives a value and the text after it,
which is shorter than the text it was given. -/

namespace PageRules.Json

def isSpace (c : Char) : Bool := c == ' ' || c == '\t' || c == '\n' || c == '\r'

def skip (t : Text) : Text := t.dropWhile isSpace

theorem length_skip_le (t : Text) : (skip t).length ≤ t.length := Text.length_dropWhile_le _ t

def simpleEscape? : Char → Option Char
  | '"' => some '"'
  | '\\' => some '\\'
  | '/' => some '/'
  | 'b' => some '\x08'
  | 'f' => some '\x0c'
  | 'n' => some '\n'
  | 'r' => some '\r'
  | 't' => some '\t'
  | _ => none

/-- The code points and escaped units up to the closing quote, and the text after it. -/
def stringUnits : Text → Option (List Nat × Text)
  | [] => none
  | '"' :: rest => some ([], rest)
  | '\\' :: 'u' :: a :: b :: c :: d :: rest => do
    let unit ← Text.hexNumber? [a, b, c, d]
    let (units, after) ← stringUnits rest
    return (unit :: units, after)
  | '\\' :: e :: rest => do
    let c ← simpleEscape? e
    let (units, after) ← stringUnits rest
    return (c.toNat :: units, after)
  | c :: rest => do
    guard (0x20 ≤ c.toNat && c != '\\')
    let (units, after) ← stringUnits rest
    return (c.toNat :: units, after)

def isHighSurrogate (n : Nat) : Bool := 0xD800 ≤ n && n ≤ 0xDBFF
def isLowSurrogate (n : Nat) : Bool := 0xDC00 ≤ n && n ≤ 0xDFFF

/-- The text that units denote, if their surrogates come in pairs. -/
def textOfUnits? : List Nat → Option Text
  | [] => some []
  | u :: rest =>
    if isHighSurrogate u then
      match rest with
      | v :: more =>
        if isLowSurrogate v then
          (textOfUnits? more).map (Char.ofNat (0x10000 + (u - 0xD800) * 0x400 + (v - 0xDC00)) :: ·)
        else none
      | [] => none
    else if isLowSurrogate u then none
    else (textOfUnits? rest).map (Char.ofNat u :: ·)

def digits (t : Text) : Text × Text := (t.takeWhile Char.isDigit, t.dropWhile Char.isDigit)

/-- Digits of a whole part: at least one, and no zero in front of others. -/
def wholeDigits? (t : Text) : Option (Text × Text) :=
  match digits t with
  | ([], _) => none
  | ('0' :: _ :: _, _) => none
  | (ds, rest) => some (ds, rest)

/-- A mark and the digits after it, if the mark is there. -/
def fraction? (t : Text) : Option (Text × Text) :=
  match t with
  | '.' :: t =>
    match digits t with
    | ([], _) => none
    | (ds, rest) => some ('.' :: ds, rest)
  | _ => some ([], t)

def exponent? (t : Text) : Option (Text × Text) :=
  match t with
  | e :: t' =>
    if e == 'e' || e == 'E' then
      let (sign, t') := match t' with
        | s :: r => if s == '+' || s == '-' then ([s], r) else ([], t')
        | [] => ([], [])
      match digits t' with
      | ([], _) => none
      | (ds, rest) => some (e :: sign ++ ds, rest)
    else some ([], t)
  | [] => some ([], [])

/-- Whether an integer fits one of the machine integers of 64 bits, signed or unsigned. -/
def isMachineInt (n : Int) : Bool := -0x8000000000000000 ≤ n && n < 0x10000000000000000

def numberValue (negative : Bool) (whole tail : Text) : Json :=
  let spelling := (if negative then ['-'] else []) ++ whole ++ tail
  match tail, Text.toNat? whole with
  | [], some n =>
    let value : Int := if negative then -n else n
    if isMachineInt value && !(negative && n == 0) then .int value else .real spelling
  | _, _ => .real spelling

def number? (t : Text) : Option (Json × Text) := do
  let (negative, t) := match t with
    | '-' :: r => (true, r)
    | _ => (false, t)
  let (whole, t) ← wholeDigits? t
  let (frac, t) ← fraction? t
  let (exp, t) ← exponent? t
  return (numberValue negative whole (frac ++ exp), t)

/-- A value read from `t` and the shorter text after it. -/
abbrev Step (α : Type) (t : Text) := Option { r : α × Text // r.2.length < t.length }

/-- The value with the text after it, where that is shorter. -/
def Step.of {α : Type} {t : Text} : Option (α × Text) → Step α t
  | some (v, rest) => if h : rest.length < t.length then some ⟨(v, rest), h⟩ else none
  | none => none

def literal (word : Text) (value : Json) (t : Text) : Option (Json × Text) :=
  (word.isPrefixOf? t).map (value, ·)

def string? (t : Text) : Option (Option Text × Text) :=
  match t with
  | '"' :: r => (stringUnits r).map fun (units, rest) => (textOfUnits? units, rest)
  | _ => none

/-- The object of members read in order; none of its keys may be unreadable. -/
def ofMembers (members : List (Option Text × Json)) : Json :=
  match members.mapM fun (k, v) => k.map (·, v) with
  | some members => .obj members
  | none => .unreadable

mutual

def value (t : Text) : Step Json t :=
  have := length_skip_le t
  match h : skip t with
  | [] => none
  | '[' :: r =>
    match hr : skip r with
    | ']' :: rest => some ⟨(.arr [], rest), by
        have := length_skip_le r; simp_all; omega⟩
    | _ => do
      let ⟨(vs, rest), hlt⟩ ← elements r
      return ⟨(.arr vs, rest), by simp_all; omega⟩
  | '{' :: r =>
    match hr : skip r with
    | '}' :: rest => some ⟨(.obj [], rest), by
        have := length_skip_le r; simp_all; omega⟩
    | _ => do
      let ⟨(ms, rest), hlt⟩ ← members r
      return ⟨(ofMembers ms, rest), by simp_all; omega⟩
  | '"' :: r => Step.of ((string? ('"' :: r)).map fun (s, rest) =>
      (match s with | some s => .str s | none => .unreadable, rest))
  | 'n' :: r => Step.of (literal "null".toList .null ('n' :: r))
  | 't' :: r => Step.of (literal "true".toList (.bool true) ('t' :: r))
  | 'f' :: r => Step.of (literal "false".toList (.bool false) ('f' :: r))
  | text => Step.of (number? text)
termination_by (t.length, 0)
decreasing_by all_goals simp_all [Prod.lex_def]; try omega

def elements (t : Text) : Step (List Json) t := do
  let ⟨(v, rest), hv⟩ ← value t
  match h : skip rest with
  | ',' :: r =>
    have := length_skip_le rest
    let ⟨(vs, after), hlt⟩ ← elements r
    return ⟨(v :: vs, after), by simp_all; omega⟩
  | ']' :: r => return ⟨([v], r), by have := length_skip_le rest; simp_all; omega⟩
  | _ => none
termination_by (t.length, 1)
decreasing_by all_goals simp_all [Prod.lex_def]; try omega

def members (t : Text) : Step (List (Option Text × Json)) t := do
  let ⟨(k, afterKey), hk⟩ : { r : Option Text × Text // r.2.length < t.length } ←
    Step.of (string? (skip t))
  match hc : skip afterKey with
  | ':' :: beforeValue =>
    have := length_skip_le afterKey
    let ⟨(v, rest), hv⟩ ← value beforeValue
    match h : skip rest with
    | ',' :: r =>
      have := length_skip_le rest
      let ⟨(ms, after), hlt⟩ ← members r
      return ⟨((k, v) :: ms, after), by simp_all; omega⟩
    | '}' :: r => return ⟨([(k, v)], r), by have := length_skip_le rest; simp_all; omega⟩
    | _ => none
  | _ => none
termination_by (t.length, 1)
decreasing_by all_goals simp_all [Prod.lex_def]; try omega

end

/-- The value that a text spells, with nothing but white space around it. -/
def read? (t : Text) : Option Json := do
  let ⟨(v, rest), _⟩ ← value t
  if skip rest = [] then some v else none

end PageRules.Json
