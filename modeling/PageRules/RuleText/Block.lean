import PageRules.RuleText.Keyword

/-! Blocks of a rule text. A block is a keyword, a header up to the first brace on its line, a body
with balanced braces, and the option groups that follow it. -/

namespace PageRules.RuleText

/-- A piece of a text and the position of its first character. -/
structure Fragment where
  start : Nat
  chars : Text
  deriving DecidableEq

def Fragment.stop (f : Fragment) : Nat := f.start + f.chars.length

def Fragment.text (f : Fragment) : Text := Text.trim f.chars

structure Block where
  start : Nat
  header : Fragment
  body : Fragment
  /-- The option groups directly after the closing brace. -/
  trailer : Fragment
  deriving DecidableEq

def Block.stop (b : Block) : Nat := b.trailer.stop

/-- Why a keyword opens no block. -/
inductive Defect where
  | noBrace
  | unmatchedBrace
  deriving DecidableEq

structure Malformed where
  start : Nat
  defect : Defect
  deriving DecidableEq

structure Scan where
  blocks : List Block := []
  malformed : List Malformed := []
  deriving DecidableEq

namespace Scan

def consBlock (b : Block) (s : Scan) : Scan := { s with blocks := b :: s.blocks }

def consMalformed (m : Malformed) (s : Scan) : Scan := { s with malformed := m :: s.malformed }

end Scan

/-- The text up to an opening brace on the same line, and the text after the brace. -/
def header? : Text → Option (Text × Text)
  | [] => none
  | c :: rest =>
    if c == '{' then some ([], rest)
    else if c == '}' || c == '\n' then none
    else (header? rest).map fun (header, after) => (c :: header, after)

/-- The text up to the closing brace that matches one already read, and the text after it, where
`depth` more braces are open. -/
def body? (depth : Nat) : Text → Option (Text × Text)
  | [] => none
  | c :: rest =>
    if c == '}' then
      match depth with
      | 0 => some ([], rest)
      | depth + 1 => (body? depth rest).map fun (body, after) => (c :: body, after)
    else
      (body? (if c == '{' then depth + 1 else depth) rest).map fun (body, after) =>
        (c :: body, after)

/-- White space and a bracket group at the front, and the text after them. -/
def group? (t : Text) : Option (Text × Text) :=
  match t.dropWhile Text.isSpace with
  | '[' :: rest =>
    (Text.splitOnce (· == ']') rest).map fun (inner, after) =>
      (t.takeWhile Text.isSpace ++ '[' :: inner ++ [']'], after)
  | _ => none

theorem length_header? {t header after : Text} (h : header? t = some (header, after)) :
    t.length = header.length + after.length + 1 := by
  induction t generalizing header after with
  | nil => simp [header?] at h
  | cons c cs ih =>
    unfold header? at h
    split at h
    · cases h; simp
    · split at h
      · cases h
      · obtain ⟨⟨b, a⟩, hs, he⟩ := Option.map_eq_some_iff.mp h
        cases he
        simp [ih hs]; omega

theorem length_body? {depth : Nat} {t body after : Text} (h : body? depth t = some (body, after)) :
    t.length = body.length + after.length + 1 := by
  induction t generalizing depth body after with
  | nil => simp [body?] at h
  | cons c cs ih =>
    unfold body? at h
    split at h
    · split at h
      · cases h; simp
      · obtain ⟨⟨b, a⟩, hs, he⟩ := Option.map_eq_some_iff.mp h
        cases he
        simp [ih hs]; omega
    · obtain ⟨⟨b, a⟩, hs, he⟩ := Option.map_eq_some_iff.mp h
      cases he
      simp [ih hs]; omega

theorem length_group? {t group after : Text} (h : group? t = some (group, after)) :
    t.length = group.length + after.length ∧ 0 < group.length := by
  unfold group? at h
  split at h
  · rename_i rest hd
    obtain ⟨⟨inner, a⟩, hs, he⟩ := Option.map_eq_some_iff.mp h
    cases he
    have hl := Text.length_splitOnce hs
    have ht := congrArg List.length (List.takeWhile_append_dropWhile (p := Text.isSpace) (l := t))
    rw [hd] at ht
    simp at ht ⊢
    omega
  · cases h

/-- The bracket groups at the front, with the white space before each, and the text after them. -/
def optionRun (t : Text) : Text × Text :=
  match _h : group? t with
  | some (group, after) =>
    let (more, rest) := optionRun after
    (group ++ more, rest)
  | none => ([], t)
termination_by t.length
decreasing_by
  have := length_group? ‹_›
  omega

theorem length_optionRun (t : Text) :
    t.length = (optionRun t).1.length + (optionRun t).2.length := by
  fun_induction optionRun t with
  | case1 t group after hg more rest hr ih =>
    have := length_group? hg
    simp [hr] at ih
    simp
    omega
  | case2 => simp

/-- A keyword may follow the character. -/
def boundsKeyword (c : Char) : Bool :=
  c == ' ' || c == '\t' || c == '\n' || c == '{' || c == '}' || c == ';'

/-- What a keyword at the front opens. `size` and `lead` count the characters up to where the text
goes on and up to the header. -/
inductive Opening where
  /-- There is no keyword with its colon. -/
  | none
  /-- No brace ends the header; the text goes on after the colon. -/
  | noBrace (size : Nat) (after : Text)
  /-- The brace is never closed; the text goes on after it. -/
  | unmatchedBrace (size : Nat) (after : Text)
  | block (lead : Nat) (header body trailer after : Text)

namespace Opening

def read (k : Keyword) (t : Text) : Opening :=
  match k.after? t with
  | .none => .none
  | some afterColon =>
    let lead := t.length - afterColon.length
    match header? afterColon with
    | .none => .noBrace lead afterColon
    | some (header, afterBrace) =>
      match body? 0 afterBrace with
      | .none => .unmatchedBrace (lead + header.length + 1) afterBrace
      | some (body, afterBody) => .block lead header body (optionRun afterBody).1 (optionRun afterBody).2

/-- What a keyword opens where one is allowed. -/
def readIf (allowed : Bool) (k : Keyword) (t : Text) : Opening :=
  if allowed then read k t else .none

/-- The text with which the scan goes on. -/
def after? : Opening → Option Text
  | .none => .none
  | .noBrace _ after | .unmatchedBrace _ after | .block _ _ _ _ after => some after

theorem length_after? {k : Keyword} {t after : Text} (h : (read k t).after? = some after) :
    after.length < t.length := by
  unfold read at h
  split at h
  · cases h
  · rename_i hk
    have hk := Keyword.length_after? hk
    split at h
    · cases h; exact hk
    · rename_i hh
      have hh := length_header? hh
      split at h
      · cases h; omega
      · rename_i s hb
        have hb := length_body? hb
        have hr := length_optionRun s
        cases h
        omega

theorem length_after?_readIf {allowed : Bool} {k : Keyword} {t after : Text} {o : Opening}
    (h : readIf allowed k t = o) (ha : o.after? = some after) : after.length < t.length := by
  subst h
  unfold readIf at ha
  split at ha
  · exact length_after? ha
  · cases ha

end Opening

/-- Every block of a keyword outside braces, from the position `pos` on. `bounded` says that a
keyword may stand at the front. A brace that never closes is passed over, so that blocks after it
are still found. -/
def scanFrom (k : Keyword) (pos depth : Nat) (bounded : Bool) (t : Text) : Scan :=
  match t with
  | [] => {}
  | c :: rest =>
    if c == '{' then scanFrom k (pos + 1) (depth + 1) true rest
    else if c == '}' then scanFrom k (pos + 1) (depth - 1) true rest
    else
      match h : Opening.readIf (depth == 0 && bounded) k (c :: rest) with
      | .none => scanFrom k (pos + 1) depth (boundsKeyword c) rest
      | .noBrace size after =>
        have := Opening.length_after?_readIf h rfl
        (scanFrom k (pos + size) 0 false after).consMalformed ⟨pos, .noBrace⟩
      | .unmatchedBrace size after =>
        have := Opening.length_after?_readIf h rfl
        (scanFrom k (pos + size) 0 true after).consMalformed ⟨pos, .unmatchedBrace⟩
      | .block lead header body trailer after =>
        have := Opening.length_after?_readIf h rfl
        let bodyStart := pos + lead + header.length + 1
        let trailerStart := bodyStart + body.length + 1
        (scanFrom k (trailerStart + trailer.length) 0 trailer.isEmpty after).consBlock
          ⟨pos, ⟨pos + lead, header⟩, ⟨bodyStart, body⟩, ⟨trailerStart, trailer⟩⟩
termination_by t.length
decreasing_by all_goals simp only [List.length_cons] at *; omega

/-- The blocks of a keyword in a fragment. -/
def scanBlocks (k : Keyword) (f : Fragment) : Scan := scanFrom k f.start 0 true f.chars

end PageRules.RuleText
