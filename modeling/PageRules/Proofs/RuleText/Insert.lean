import Mathlib
import PageRules.Proofs.RuleText.Coverage
import PageRules.Proofs.RuleText.Resume
import PageRules.Proofs.RuleText.Shift

/-!
# A line put where one is empty

A scan of a text with a line that closes its braces finds what it finds where the line is empty: the
blocks in front of the line, those behind it, further on, and the one around it with the line in its
body (`scanFrom_withLine`). This asks that option groups end in front of the line, and that no
keyword is read in it.
-/

namespace PageRules.RuleText

variable {k : Keyword} {t u v w line : Text} {q : Nat}

/-- A text with a line in it. -/
def withLine (w line v : Text) : Text := w ++ '\n' :: (line ++ '\n' :: v)

theorem withLine_append (u w line v : Text) : u ++ withLine w line v = withLine (u ++ w) line v :=
  (List.append_assoc ..).symm

theorem withLine_cons (c : Char) (w line v : Text) :
    withLine (c :: w) line v = c :: withLine w line v := rfl

theorem withLine_nil (line v : Text) : withLine [] line v = '\n' :: (line ++ '\n' :: v) := rfl

/-! ## Depth -/

/-- A brace behind which the depth never comes below zero stands in no text that closes its
braces. -/
theorem open_behind_balanced {front rest a m : Text} {e : Nat}
    (h : front ++ rest = a ++ '\x7b' :: m) (hfront : braceDepth? 0 front = some 0)
    (hm : braceDepth? 0 m = some e) :
    ∃ s, a = front ++ s ∧ rest = s ++ '\x7b' :: m := by
  rcases List.append_eq_append_iff.mp h with ⟨s, ha, hrest⟩ | ⟨s, hs, hm'⟩
  · exact ⟨s, ha, hrest⟩
  cases s with
  | nil => exact ⟨[], by simpa using hs.symm, by simpa using hm'.symm⟩
  | cons c s =>
    rw [List.cons_append] at hm'
    obtain ⟨rfl, rfl⟩ := List.cons.inj hm'
    obtain ⟨d, hd, -⟩ := braceDepth?_append_eq_some_iff.mp hm
    rw [hs] at hfront
    obtain ⟨d', -, hopen⟩ := braceDepth?_append_eq_some_iff.mp hfront
    rw [braceDepth?_open, ← Nat.zero_add (d' + 1), braceDepth?_add hd] at hopen
    cases hopen

/-- A scan inside braces that stay open reads no keyword. -/
theorem scanFrom_deep {d e : Nat} (h : braceDepth? d t = some e) (pos : Nat) (b : Bool)
    (s : Text) :
    scanFrom k pos (d + 1) b (t ++ s) =
      scanFrom k (pos + t.length) (e + 1) (boundedBehind b t) s := by
  induction t generalizing pos d b with
  | nil =>
    cases h
    rfl
  | cons c t ih =>
    rw [add_length_cons]
    by_cases ho : c = '\x7b'
    · subst ho
      rw [List.cons_append, scanFrom_open]
      exact ih h (pos + 1) true
    by_cases hc : c = '\x7d'
    · subst hc
      cases d with
      | zero => cases h
      | succ d =>
        rw [List.cons_append, scanFrom_close]
        exact ih h (pos + 1) true
    · rw [braceDepth?_cons ho hc] at h
      rw [List.cons_append, scanFrom_cons _ _ ho hc rfl]
      exact ih h (pos + 1) (boundsKeyword c)

/-- No keyword begins with a line break. -/
theorem scanFrom_break (k : Keyword) (pos depth : Nat) (b : Bool) (s : Text) :
    scanFrom k pos depth b ('\n' :: s) = scanFrom k (pos + 1) depth true s :=
  scanFrom_cons _ _ (by decide) (by decide) (readIf_eq_none fun _ =>
    Keyword.after?_cons_of_not_letter (Keyword.barrier_of_mem (by decide)).not_letter s)

/-! ## Option groups -/

theorem group?_isSome_of_append {group after s : Text} (h : group? (t ++ s) = some (group, after))
    (hle : group.length ≤ t.length) : (group? t).isSome := by
  induction t generalizing group with
  | nil =>
    have := length_group? h
    simp only [List.length_nil] at hle
    omega
  | cons c t ih =>
    rw [List.cons_append] at h
    by_cases hs : Text.isSpace c = true
    · rw [group?_space hs] at h ⊢
      obtain ⟨⟨g, a⟩, hg, he⟩ := Option.map_eq_some_iff.mp h
      cases he
      rw [Option.isSome_map]
      exact ih hg (Nat.le_of_succ_le_succ hle)
    by_cases hc : c = '['
    · subst hc
      rw [group?_open] at h ⊢
      obtain ⟨⟨inner, a⟩, hg, he⟩ := Option.map_eq_some_iff.mp h
      cases he
      rw [Option.isSome_map]
      obtain ⟨d, hd, htext, -⟩ := Text.splitOnce_eq_some hg
      have hmem : d ∈ t := by
        have hinner : inner ++ [d] <+: t ++ s := ⟨after, by rw [htext]; simp⟩
        have hprefix : inner ++ [d] <+: t := by
          refine List.prefix_of_prefix_length_le hinner (List.prefix_append t s) ?_
          simp only [List.length_append, List.length_cons, List.length_nil] at hle ⊢
          omega
        exact hprefix.subset (by simp)
      rw [Option.isSome_iff_ne_none]
      intro hnone
      rw [Text.forall_of_splitOnce_eq_none hnone d hmem] at hd
      cases hd
    · rw [group?_other (by simpa using hs) hc] at h
      cases h

/-- Groups that end in a text are the groups of the text. -/
theorem optionRun_append_of_length_le {s : Text} (h : (optionRun (t ++ s)).1.length ≤ t.length) :
    optionRun (t ++ s) = ((optionRun t).1, (optionRun t).2 ++ s) := by
  rw [optionRun_append_text] at h ⊢
  have hnone : group? ((optionRun t).2 ++ s) = none := by
    by_contra hsome
    obtain ⟨⟨group, after⟩, hg⟩ := Option.ne_none_iff_exists'.mp hsome
    have hlength := length_optionRun t
    rw [optionRun_of_some hg] at h
    simp only [List.length_append] at h
    have := group?_isSome_of_append hg (by omega)
    rw [group?_optionRun] at this
    cases this
  rw [optionRun_of_none hnone]
  simp

/-! ## Openings -/

/-- How what a keyword opens is the same with a line in the text and with an empty one. The texts
are told apart by where the line stands. -/
inductive Opening.Inserted (k : Keyword) (w line v : Text) : Opening → Opening → Prop
  | none : Inserted k w line v .none .none
  | noBrace {word u} (hw : k.IsWord word) (hu : w = word ++ u) :
      Inserted k w line v (.noBrace word.length (withLine u [] v))
        (.noBrace word.length (withLine u line v))
  | unmatchedBrace {word header u} (hw : k.IsWord word) (hh : IsHeader header)
      (hu : w = word ++ (header ++ '\x7b' :: u)) (hb : body? 0 (withLine u [] v) = .none) :
      Inserted k w line v
        (.unmatchedBrace (word.length + header.length + 1) (withLine u [] v))
        (.unmatchedBrace (word.length + header.length + 1) (withLine u line v))
  /-- The line stands behind the closing brace. -/
  | closed {word header body u} (hw : k.IsWord word) (hh : IsHeader header)
      (hb : braceDepth? 0 body = some 0)
      (hu : w = word ++ (header ++ '\x7b' :: (body ++ '\x7d' :: u))) :
      Inserted k w line v
        (.block word.length header body (optionRun (withLine u [] v)).1
          (optionRun (withLine u [] v)).2)
        (.block word.length header body (optionRun (withLine u line v)).1
          (optionRun (withLine u line v)).2)
  /-- The line stands in the body. -/
  | around {word header m n trailer after} (hu : w = word ++ (header ++ '\x7b' :: m)) :
      Inserted k w line v (.block word.length header (withLine m [] n) trailer after)
        (.block word.length header (withLine m line n) trailer after)

/-- A body goes on behind the line as deep as in front of it. -/
theorem body?_withLine {d : Nat} (hu : braceDepth? 0 u = some d)
    (hline : braceDepth? 0 line = some 0) (v : Text) :
    body? 0 (withLine u line v) =
      (body? d v).map fun (n, after) => (withLine u line n, after) := by
  have hfront : braceDepth? 0 (u ++ '\n' :: (line ++ ['\n'])) = some d := by
    rw [braceDepth?_append, hu, Option.bind_some, braceDepth?_cons (by decide) (by decide),
      braceDepth?_append, ← Nat.zero_add d, braceDepth?_add hline d, Option.bind_some,
      braceDepth?_cons (by decide) (by decide), braceDepth?_nil]
  have htext (v : Text) :
      withLine u line v = u ++ '\n' :: (line ++ ['\n']) ++ v := by simp [withLine]
  simp only [htext, body?_append_of_braceDepth hfront]

theorem Opening.read_withLine (hline : braceDepth? 0 line = some 0) (k : Keyword) (w v : Text) :
    Inserted k w line v (read k (withLine w [] v)) (read k (withLine w line v)) := by
  have hafter (line : Text) : k.after? (withLine w line v) =
      (k.after? w).map (withLine · line v) :=
    Keyword.after?_append_barrier (Keyword.barrier_of_mem (by decide)) w _
  unfold read
  rw [hafter, hafter]
  cases hk : k.after? w with
  | none => exact .none
  | some colon =>
    obtain ⟨word, hw, rfl⟩ := Keyword.after?_eq_some hk
    have hlead (line : Text) : (withLine (word ++ colon) line v).length -
        (withLine colon line v).length = word.length := by
      simp only [withLine, List.length_append]
      omega
    have hheader (line : Text) : header? (withLine colon line v) =
        (header? colon).map fun (header, after) => (header, withLine after line v) :=
      header?_append_line colon _
    simp only [Option.map_some, hlead, hheader]
    cases hh : header? colon with
    | none => exact .noBrace hw rfl
    | some r =>
      obtain ⟨header, u⟩ := r
      obtain ⟨rfl, his⟩ := header?_eq_some hh
      simp only [Option.map_some]
      cases hb : body? 0 u with
      | some r =>
        obtain ⟨body, behind⟩ := r
        obtain ⟨rfl, hbalanced⟩ := body?_eq_some hb
        have hbody (line : Text) :
            body? 0 (withLine (body ++ '\x7d' :: behind) line v) =
              some (body, withLine behind line v) := body?_append_of_some hb _
        rw [hbody, hbody]
        exact .closed hw his (hbalanced 0) rfl
      | none =>
        obtain ⟨d, hd⟩ := body?_eq_none_iff.mp hb
        have hnil : braceDepth? 0 [] = some 0 := rfl
        have hempty := body?_withLine hd hnil v
        cases hv : body? d v with
        | none =>
          rw [hv] at hempty
          rw [hempty, body?_withLine hd hline, hv]
          exact .unmatchedBrace hw his rfl hempty
        | some r =>
          rw [hempty, body?_withLine hd hline, hv]
          exact .around rfl

/-! ## Scans -/

/-- The fragments that differ in the line that stands at a position. -/
inductive Fragment.Inserted (q : Nat) (line : Text) : Fragment → Fragment → Prop
  | mk {start w v} (h : start + w.length + 1 = q) :
      Inserted q line ⟨start, withLine w [] v⟩ ⟨start, withLine w line v⟩

/-- The blocks with the line in their bodies. -/
structure Block.Around (q : Nat) (line : Text) (b b' : Block) : Prop where
  start : b.start < q
  start_eq : b'.start = b.start
  header_eq : b'.header = b.header
  body : b.body.Inserted q line b'.body
  stop : q < b.stop
  trailer_eq : b'.trailer = b.trailer.shift line.length

theorem Block.Around.stop_eq {b b' : Block} (h : b.Around q line b') :
    b'.stop = b.stop + line.length := by
  rw [Block.stop, h.trailer_eq, Fragment.stop, Fragment.start_shift, Fragment.chars_shift,
    Nat.add_right_comm]
  rfl

/-- How a block is the same where the line stands. -/
inductive Block.Inserted (q : Nat) (line : Text) : Block → Block → Prop
  | before {low high b} (h : b.Within low high) (hq : high < q) : Inserted q line b b
  | behind {low high b} (h : b.Within low high) (hq : q < low) :
      Inserted q line b (b.shift line.length)
  | around {b b'} (h : b.Around q line b') : Inserted q line b b'

/-- How a keyword that opens no block is the same where the line stands. -/
inductive Malformed.Inserted (q : Nat) (line : Text) : Malformed → Malformed → Prop
  | before {m} (h : m.start < q) : Inserted q line m m
  | behind {m} (h : q < m.start) : Inserted q line m (m.shift line.length)

/-- How a scan is the same where the line stands. -/
structure Scan.Inserted (q : Nat) (line : Text) (s s' : Scan) : Prop where
  blocks : List.Forall₂ (Block.Inserted q line) s.blocks s'.blocks
  malformed : List.Forall₂ (Malformed.Inserted q line) s.malformed s'.malformed

namespace Scan.Inserted

variable {s s' : Scan}

theorem consBlock (h : Scan.Inserted q line s s') {b b' : Block} (hb : b.Inserted q line b') :
    Scan.Inserted q line (s.consBlock b) (s'.consBlock b') :=
  ⟨.cons hb h.blocks, h.malformed⟩

theorem consMalformed (h : Scan.Inserted q line s s') {m m' : Malformed}
    (hm : m.Inserted q line m') :
    Scan.Inserted q line (s.consMalformed m) (s'.consMalformed m') :=
  ⟨h.blocks, .cons hm h.malformed⟩

/-- What a scan finds behind the line is found further on. -/
theorem scanFrom_behind {pos : Nat} (hpos : q < pos) (k : Keyword) (depth : Nat) (b : Bool)
    (t : Text) : Scan.Inserted q line (scanFrom k pos depth b t)
      (scanFrom k (pos + line.length) depth b t) := by
  have hscans := scans_scanFrom k pos depth b t
  rw [scanFrom_shift]
  constructor
  · rw [Scan.blocks_shift, List.forall₂_map_right_iff, List.forall₂_same]
    exact fun b hb => .behind (hscans.standsIn hb).within hpos
  · rw [Scan.malformed_shift, List.forall₂_map_right_iff, List.forall₂_same]
    exact fun m hm => .behind (hpos.trans_le (hscans.malformed_within hm).1)

end Scan.Inserted

/-- Why no keyword is read in the line: it holds none, a block stands around it, or braces do that
no scan parts from one another. -/
inductive Sheltered (k : Keyword) (line v : Text) (q : Nat) (w : Text) (blocks : List Block) :
    Prop
  | silent (h : ∀ pos, scanFrom k pos 0 true line = {})
  | covered {b} (hb : b ∈ blocks) (h : b.Covers q)
  | braces {a m e} (hw : w = a ++ '\x7b' :: m) (hm : braceDepth? 0 m = some e)
      (hclosed : (body? 0 (withLine m [] v)).isSome)
      (htrailers : ∀ b ∈ blocks, b.stop < q → braceDepth? 0 b.trailer.chars = some 0)

/-- The option groups of the blocks that close in front of the line end in front of it. -/
def GroupsStay (q : Nat) (blocks : List Block) : Prop :=
  ∀ b ∈ blocks, b.body.stop < q → b.stop < q

instance (q : Nat) (blocks : List Block) : Decidable (GroupsStay q blocks) :=
  inferInstanceAs (Decidable (∀ b ∈ blocks, b.body.stop < q → b.stop < q))

theorem GroupsStay.mono {blocks blocks' : List Block} (h : GroupsStay q blocks)
    (hsub : blocks' ⊆ blocks) : GroupsStay q blocks' := fun b hb => h b (hsub hb)

/-- The groups behind a body that closes in front of the line are those of the text between. -/
theorem GroupsStay.optionRun_withLine {pos lead : Nat} {header body : Text} {scan : Scan}
    (h : GroupsStay q
      (scan.consBlock (.opened pos lead header body (optionRun (withLine u line v)).1)).blocks)
    (hq : pos + lead + header.length + 1 + body.length + 1 + u.length + 1 = q) :
    optionRun (withLine u line v) = ((optionRun u).1, withLine (optionRun u).2 line v) := by
  have hstop := h _ List.mem_cons_self
  simp only [Block.opened, Block.stop, Fragment.stop] at hstop
  have hle : (optionRun (withLine u line v)).1.length ≤ u.length := by omega
  exact optionRun_append_of_length_le hle

/-- The scan goes on in braces that stay open up to the line. -/
theorem scanFrom_withLine_deep (hline : braceDepth? 0 line = some 0) {d e pos : Nat}
    (hw : braceDepth? d w = some e) (hq : pos + w.length + 1 = q) (k : Keyword) (b : Bool)
    (v : Text) :
    Scan.Inserted q line (scanFrom k pos (d + 1) b (withLine w [] v))
      (scanFrom k pos (d + 1) b (withLine w line v)) := by
  have hdeep {line : Text} (hline : braceDepth? 0 line = some 0) :
      scanFrom k pos (d + 1) b (withLine w line v) =
        scanFrom k (q + 1 + line.length) (e + 1) true v := by
    have hfront : braceDepth? d (w ++ '\n' :: line) = some e := by
      rw [braceDepth?_append, hw, Option.bind_some, braceDepth?_cons (by decide) (by decide),
        ← Nat.zero_add e]
      exact braceDepth?_add hline e
    have htext : withLine w line v = w ++ '\n' :: line ++ '\n' :: v := by simp [withLine]
    rw [htext, scanFrom_deep hfront, scanFrom_break, List.length_append, List.length_cons]
    congr 1
    omega
  rw [hdeep rfl, hdeep hline]
  exact .scanFrom_behind (Nat.lt_succ_self q) k (e + 1) true v

/-- The scan comes to the line where it could read a keyword, but the line holds none. -/
theorem scanFrom_withLine_silent (hline : braceDepth? 0 line = some 0)
    (hsilent : ∀ pos, scanFrom k pos 0 true line = {}) (v : Text) :
    Scan.Inserted q line (scanFrom k q 0 true ('\n' :: v))
      (scanFrom k q 0 true (line ++ '\n' :: v)) := by
  have hnone : (scanFrom k q 0 true line).blocks = [] := by rw [hsilent]
  obtain ⟨early, last?, hgo⟩ := scanFrom_append_text (s := '\n' :: v) hline (Nat.le_refl 0)
    (.line rfl) (fun _ => .inl rfl) (by rw [hnone]; simp)
  have hfound := hgo.found_eq
  rw [hsilent] at hfound
  have hearly : early = {} ∧ last? = none := by
    obtain ⟨blocks, malformed⟩ := early
    obtain ⟨rfl, hlast⟩ := List.append_eq_nil_iff.mp (congrArg Scan.blocks hfound).symm
    obtain ⟨rfl, -⟩ := List.append_eq_nil_iff.mp (congrArg Scan.malformed hfound).symm
    exact ⟨rfl, by simpa using hlast⟩
  rw [hgo.goneOn_eq, hearly.1, hearly.2, resumed, scanFrom_break, scanFrom_break,
    Nat.add_right_comm]
  exact .scanFrom_behind (Nat.lt_succ_self q) k 0 true v

namespace Sheltered

variable {blocks blocks' : List Block}

theorem behind {front : Text} (h : Sheltered k line v q (front ++ w) blocks)
    (hfront : (∀ b ∈ blocks, b.stop < q → braceDepth? 0 b.trailer.chars = some 0) →
      braceDepth? 0 front = some 0) (hsub : blocks' ⊆ blocks)
    (hcovers : ∀ b ∈ blocks, b.Covers q → b ∈ blocks') :
    Sheltered k line v q w blocks' := by
  cases h with
  | silent h => exact .silent h
  | covered hb h => exact .covered (hcovers _ hb h) h
  | braces hw hm hclosed htrailers =>
    obtain ⟨s, -, hrest⟩ := open_behind_balanced hw (hfront htrailers) hm
    exact .braces hrest hm hclosed fun b hb => htrailers b (hsub hb)

/-- What closes its braces shelters no line behind it. -/
theorem behind_front {front : Text} (h : Sheltered k line v q (front ++ w) blocks)
    (hfront : braceDepth? 0 front = some 0) : Sheltered k line v q w blocks :=
  h.behind (fun _ => hfront) (List.Subset.refl _) fun _ hb _ => hb

/-- Behind an opening brace the scan is in the braces around the line, or these come later. -/
theorem behind_open (h : Sheltered k line v q ('\x7b' :: w) blocks) :
    Sheltered k line v q w blocks ∨
      (∃ e, braceDepth? 0 w = some e) ∧ (body? 0 (withLine w [] v)).isSome := by
  cases h with
  | silent h => exact .inl (.silent h)
  | covered hb h => exact .inl (.covered hb h)
  | @braces a m e hw hm hclosed htrailers =>
    cases a with
    | nil =>
      cases hw
      exact .inr ⟨⟨e, hm⟩, hclosed⟩
    | cons c a =>
      obtain ⟨-, rfl⟩ := List.cons.inj hw
      exact .inl (.braces rfl hm hclosed htrailers)

theorem behind_close (h : Sheltered k line v q ('\x7d' :: w) blocks) :
    Sheltered k line v q w blocks := by
  cases h with
  | silent h => exact .silent h
  | covered hb h => exact .covered hb h
  | @braces a m e hw hm hclosed htrailers =>
    cases a with
    | nil => cases hw
    | cons c a =>
      obtain ⟨-, rfl⟩ := List.cons.inj hw
      exact .braces rfl hm hclosed htrailers

/-- Behind a block that ends in front of the line nothing else shelters it. -/
theorem behind_block {word header body : Text} (hw : k.IsWord word) (hh : IsHeader header)
    (hb : braceDepth? 0 body = some 0) {pos : Nat} {scan : Scan}
    (h : Sheltered k line v q (word ++ (header ++ '\x7b' :: (body ++ '\x7d' :: u)))
      (scan.consBlock (.opened pos word.length header body (optionRun u).1)).blocks)
    (hstop : (Block.opened pos word.length header body (optionRun u).1).stop < q) :
    Sheltered k line v q (optionRun u).2 scan.blocks := by
  have htext : word ++ (header ++ '\x7b' :: (body ++ '\x7d' :: u)) =
      pieces word header body (optionRun u).1 ++ (optionRun u).2 := by
    conv_lhs => rw [← optionRun_append u]
    simp [pieces]
  rw [htext] at h
  refine h.behind (fun htrailers => ?_) (List.subset_cons_self ..) fun b hb hcovers => ?_
  · have hdepth := braceDepth?_pieces hw hh hb (optionRun u).1 []
    rw [List.append_nil, List.append_nil] at hdepth
    exact hdepth.trans (htrailers _ List.mem_cons_self hstop)
  · rcases List.mem_cons.mp hb with rfl | hb
    · exact absurd hcovers.2 (Nat.not_lt.mpr hstop.le)
    · exact hb

end Sheltered

/-- The scan comes to the line. -/
theorem scanFrom_withLine_nil (hline : braceDepth? 0 line = some 0) {pos depth : Nat} {b : Bool}
    (hshelter : Sheltered k line v (pos + 1) []
      (scanFrom k pos depth b (withLine [] [] v)).blocks) :
    Scan.Inserted (pos + 1) line (scanFrom k pos depth b (withLine [] [] v))
      (scanFrom k pos depth b (withLine [] line v)) := by
  cases depth with
  | succ d => exact scanFrom_withLine_deep hline (braceDepth?_nil d) rfl k b v
  | zero =>
    rw [withLine_nil, List.nil_append, scanFrom_break k pos] at hshelter ⊢
    rw [withLine_nil, scanFrom_break k pos]
    cases hshelter with
    | silent h => exact scanFrom_withLine_silent hline h v
    | covered hb h =>
      rw [scanFrom_break] at hb
      have hstart := ((scans_scanFrom ..).standsIn hb).within.start
      exact absurd h.1 (Nat.not_le_of_lt hstart)
    | braces hw => exact absurd hw.symm (by simp)

theorem Opening.readIf_withLine (hline : braceDepth? 0 line = some 0) (allowed : Bool)
    (k : Keyword) (w v : Text) :
    Inserted k w line v (readIf allowed k (withLine w [] v))
      (readIf allowed k (withLine w line v)) :=
  match allowed with
  | true => read_withLine hline k w v
  | false => .none

theorem Block.within_opened (pos lead : Nat) (header body trailer : Text) :
    (opened pos lead header body trailer).Within pos
      (opened pos lead header body trailer).stop := by
  constructor
  all_goals
    simp only [opened, stop, Fragment.stop]
    omega

/-- A block whose body holds the line. -/
theorem Block.around_opened {pos : Nat} {word header m : Text}
    (hq : pos + (word ++ (header ++ '\x7b' :: m)).length + 1 = q) (line n trailer : Text) :
    (opened pos word.length header (withLine m [] n) trailer).Around q line
      (opened pos word.length header (withLine m line n) trailer) := by
  simp only [List.length_append, List.length_cons] at hq
  have hbody : pos + word.length + header.length + 1 + m.length + 1 = q := by omega
  refine ⟨?_, rfl, rfl, .mk hbody, ?_, ?_⟩
  all_goals
    simp only [opened, stop, Fragment.stop, Fragment.shift, withLine, List.length_append,
      List.length_cons, List.length_nil, Fragment.mk.injEq, and_true]
    omega

/-- A scan that comes to `w` finds the same with the line behind it as with an empty one. -/
def ScansAlike (k : Keyword) (q : Nat) (line v : Text) (depth : Nat) (w : Text) : Prop :=
  ∀ {pos b}, pos + w.length + 1 = q →
    Sheltered k line v q w (scanFrom k pos depth b (withLine w [] v)).blocks →
    GroupsStay q (scanFrom k pos depth b (withLine w [] v)).blocks →
    GroupsStay q (scanFrom k pos depth b (withLine w line v)).blocks →
    Scan.Inserted q line (scanFrom k pos depth b (withLine w [] v))
      (scanFrom k pos depth b (withLine w line v))

namespace Opening

variable {pos depth : Nat} {c : Char} {rest rest' word header body : Text}

/-- What a block opens that closes in front of the line, with groups that end there too. -/
theorem goOn_closed
    (hq : pos + (word ++ (header ++ '\x7b' :: (body ++ '\x7d' :: u))).length + 1 = q)
    (hstay : GroupsStay q ((block word.length header body (optionRun (withLine u line v)).1
      (optionRun (withLine u line v)).2).goOn k pos depth c rest).blocks) :
    (block word.length header body (optionRun (withLine u line v)).1
      (optionRun (withLine u line v)).2).goOn k pos depth c rest =
        (block word.length header body (optionRun u).1
          (withLine (optionRun u).2 line v)).goOn k pos depth c rest := by
  simp only [List.length_append, List.length_cons] at hq
  have hgroups : optionRun (withLine u line v) =
      ((optionRun u).1, withLine (optionRun u).2 line v) := hstay.optionRun_withLine (by omega)
  rw [hgroups]

/-- A block that closes in front of the line is found where it was, and the scan goes on behind its
groups. -/
theorem inserted_closed (hw : k.IsWord word) (hh : IsHeader header)
    (hb : braceDepth? 0 body = some 0) (ih : ScansAlike k q line v 0 (optionRun u).2)
    (hq : pos + (word ++ (header ++ '\x7b' :: (body ++ '\x7d' :: u))).length + 1 = q)
    (hshelter : Sheltered k line v q (word ++ (header ++ '\x7b' :: (body ++ '\x7d' :: u)))
      ((block word.length header body (optionRun u).1
        (withLine (optionRun u).2 [] v)).goOn k pos depth c rest).blocks)
    (hempty : GroupsStay q ((block word.length header body (optionRun u).1
      (withLine (optionRun u).2 [] v)).goOn k pos depth c rest).blocks)
    (hstay : GroupsStay q ((block word.length header body (optionRun u).1
      (withLine (optionRun u).2 line v)).goOn k pos depth c rest').blocks) :
    Scan.Inserted q line
      ((block word.length header body (optionRun u).1
        (withLine (optionRun u).2 [] v)).goOn k pos depth c rest)
      ((block word.length header body (optionRun u).1
        (withLine (optionRun u).2 line v)).goOn k pos depth c rest') := by
  have hplace : (Block.opened pos word.length header body (optionRun u).1).stop +
      (optionRun u).2.length + 1 = q := by
    have := length_optionRun u
    simp only [List.length_append, List.length_cons] at hq
    simp only [Block.opened, Block.stop, Fragment.stop]
    omega
  have hlt : (Block.opened pos word.length header body (optionRun u).1).stop < q := by omega
  rw [goOn] at hshelter hempty hstay ⊢
  have hbehind := hshelter.behind_block hw hh hb hlt
  refine .consBlock ?_ (.before (Block.within_opened ..) hlt)
  exact ih hplace hbehind (hempty.mono (List.subset_cons_self ..))
    (hstay.mono (List.subset_cons_self ..))

/-- What a keyword opens is found the same where scans of shorter texts find the same. -/
theorem Inserted.goOn {o o' : Opening} (h : Inserted k w line v o o') (ho : o ≠ .none)
    (ih : ∀ u, u.length < w.length → ScansAlike k q line v 0 u) (hq : pos + w.length + 1 = q)
    (hshelter : Sheltered k line v q w (o.goOn k pos depth c rest).blocks)
    (hempty : GroupsStay q (o.goOn k pos depth c rest).blocks)
    (hstay : GroupsStay q (o'.goOn k pos depth c rest').blocks) :
    Scan.Inserted q line (o.goOn k pos depth c rest) (o'.goOn k pos depth c rest') := by
  cases h with
  | none => exact absurd rfl ho
  | @noBrace word u hw hu =>
    subst hu
    have hbehind := hshelter.behind_front (braceDepth?_of_not_mem hw.no_brace.1 hw.no_brace.2 0)
    have hlt := hw.length_pos
    rw [List.length_append] at ih hq
    have hu := ih u (by omega) (by omega) hbehind hempty hstay
    exact hu.consMalformed (.before (by simp only; omega))
  | @unmatchedBrace word header u hw hh hu hb =>
    subst hu
    have hfront : braceDepth? 0 (word ++ header) = some 0 := by
      rw [braceDepth?_append_of_not_mem hw.no_brace.1 hw.no_brace.2,
        braceDepth?_of_not_mem hh.no_open hh.no_close]
    rw [← List.append_assoc] at hshelter
    rcases (hshelter.behind_front hfront).behind_open with hbehind | ⟨-, hclosed⟩
    · simp only [List.length_append, List.length_cons] at ih hq
      have hu := ih u (by omega) (by omega) hbehind hempty hstay
      exact hu.consMalformed (.before (by simp only; omega))
    · rw [hb] at hclosed
      cases hclosed
  | @closed word header body u hw hh hb hu =>
    subst hu
    have hfirst := goOn_closed hq hempty
    have hsecond := goOn_closed hq hstay
    rw [hfirst] at hshelter hempty ⊢
    rw [hsecond] at hstay ⊢
    refine inserted_closed hw hh hb (ih _ ?_) hq hshelter hempty hstay
    have := length_optionRun u
    simp only [List.length_append, List.length_cons]
    omega
  | @around word header m n trailer after hu =>
    subst hu
    have haround := Block.around_opened hq line n trailer
    rw [goOn, goOn, haround.stop_eq]
    exact .consBlock (.scanFrom_behind haround.stop k 0 _ after) (.around haround)

end Opening

/-- A scan finds the same with a line in the text and with an empty one, but for the places. By
induction on the text in front of the line. -/
theorem scanFrom_withLine (hline : braceDepth? 0 line = some 0) (k : Keyword) (q : Nat)
    (v : Text) (depth : Nat) (w : Text) : ScansAlike k q line v depth w := by
  induction hn : w.length using Nat.strong_induction_on generalizing depth w with
  | _ n ih =>
  subst hn
  intro pos b hq hshelter hempty hstay
  cases w with
  | nil =>
    cases hq
    exact scanFrom_withLine_nil hline hshelter
  | cons c w =>
    have hw (depth : Nat) : ScansAlike k q line v depth w := ih _ (Nat.lt_succ_self _) depth w rfl
    have hqw := hq
    rw [add_length_cons] at hqw
    by_cases ho : c = '\x7b'
    · subst ho
      simp only [withLine_cons, scanFrom_open] at hshelter hempty hstay ⊢
      rcases hshelter.behind_open with hshelter | ⟨⟨e, he⟩, -⟩
      · exact hw _ hqw hshelter hempty hstay
      · have hdeep := braceDepth?_add he depth
        rw [Nat.zero_add] at hdeep
        exact scanFrom_withLine_deep hline hdeep hqw k true v
    by_cases hc : c = '\x7d'
    · subst hc
      simp only [withLine_cons, scanFrom_close] at hshelter hempty hstay ⊢
      exact hw _ hqw hshelter.behind_close hempty hstay
    have hread := Opening.readIf_withLine hline (depth == 0 && b) k (c :: w) v
    simp only [withLine_cons] at hread hshelter hempty hstay ⊢
    rw [scanFrom_step ho hc] at hshelter hempty ⊢
    rw [scanFrom_step ho hc] at hstay ⊢
    generalize Opening.readIf (depth == 0 && b) k (c :: withLine w [] v) = o at *
    generalize Opening.readIf (depth == 0 && b) k (c :: withLine w line v) = o' at *
    by_cases hnone : o = .none
    · subst hnone
      cases hread
      have hone : Sheltered k line v q ([c] ++ w) _ := hshelter
      exact hw _ hqw (hone.behind_front (braceDepth?_cons ho hc 0 [])) hempty hstay
    · exact hread.goOn hnone (fun u hu => ih _ hu 0 u rfl) hq hshelter hempty hstay

end PageRules.RuleText
