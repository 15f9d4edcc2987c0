import Mathlib
import PageRules.Proofs.RuleText.Depth

/-!
# What a keyword opens

The text at a keyword falls apart into the keyword, the header, the body, the option groups and the
rest (`Opening.fits_read`): later proofs see the pieces and not how they were found.
-/

namespace PageRules.RuleText

variable {k : Keyword} {s t : Text}

/-! ## Keywords -/

namespace Keyword

/-- The letters of the keyword, blanks, and the colon; all that is needed of them here is which
characters they are. -/
structure IsWord (k : Keyword) (word : Text) : Prop where
  chars : ∀ c ∈ word, c.toLower ∈ k.name ∨ Text.isGap c = true ∨ c = ':'
  head : ∃ c ∈ word.head?, c.toLower ∈ k.name

/-- A barrier stands in no keyword. -/
theorem IsWord.not_mem {word : Text} {d : Char} (h : k.IsWord word) (hd : k.Barrier d) :
    d ∉ word := by
  intro hm
  rcases h.chars d hm with hl | hg | rfl
  · exact hd.not_letter hl
  · rw [hd.not_gap] at hg
    cases hg
  · exact hd.not_colon rfl

theorem barrier_open (k : Keyword) : k.Barrier '\x7b' := barrier_of_mem (by decide)

theorem barrier_close (k : Keyword) : k.Barrier '\x7d' := by
  refine ⟨?_, rfl, by decide⟩
  cases k <;> decide

theorem IsWord.no_brace {word : Text} (h : k.IsWord word) : '\x7b' ∉ word ∧ '\x7d' ∉ word :=
  ⟨h.not_mem k.barrier_open, h.not_mem k.barrier_close⟩

theorem IsWord.length_pos {word : Text} (hw : k.IsWord word) : 0 < word.length := by
  obtain ⟨c, hc, -⟩ := hw.head
  exact List.length_pos_of_mem (List.mem_of_mem_head? hc)

theorem IsWord.no_break {word : Text} (h : k.IsWord word) : '\n' ∉ word :=
  h.not_mem (barrier_of_mem (by decide))

theorem afterWord?_eq_some {w rest : Text} (h : afterWord? w t = some rest) :
    ∃ name, t = name ++ rest ∧ Text.lower name = w := by
  fun_induction afterWord? w t with
  | case1 => exact ⟨[], by cases h; rfl, rfl⟩
  | case2 w word c t hc ih =>
    obtain ⟨name, rfl, rfl⟩ := ih h
    exact ⟨c :: name, rfl, congrArg (· :: Text.lower name) (eq_of_beq hc).symm⟩
  | case3 => cases h
  | case4 => cases h

theorem afterWord?_lower (name t : Text) :
    afterWord? (Text.lower name) (name ++ t) = some t := by
  induction name with
  | nil => rw [Text.lower, List.map_nil, List.nil_append, afterWord?]
  | cons c name ih =>
    rw [Text.lower, List.map_cons, List.cons_append, afterWord?, if_pos (by simp)]
    exact ih

/-- A keyword with its colon is its letters, in any letter case, blanks and the colon. -/
theorem after?_eq_some_iff {header : Text} :
    k.after? t = some header ↔ ∃ name gap, t = name ++ (gap ++ ':' :: header) ∧
      Text.lower name = k.name ∧ ∀ c ∈ gap, Text.isGap c = true := by
  constructor
  · intro h
    unfold after? at h
    split at h
    · rename_i rest hw
      obtain ⟨name, rfl, hname⟩ := afterWord?_eq_some hw
      split at h
      · rename_i hd
        cases h
        refine ⟨name, rest.takeWhile Text.isGap, ?_, hname, fun c hc => List.mem_takeWhile_imp hc⟩
        rw [← hd, List.takeWhile_append_dropWhile]
      · cases h
    · cases h
  · rintro ⟨name, gap, rfl, hname, hgap⟩
    have hdrop : (gap ++ ':' :: header).dropWhile Text.isGap = ':' :: header := by
      rw [List.dropWhile_append_of_pos hgap]
      rfl
    rw [after?, ← hname, afterWord?_lower]
    simp only [hdrop]

/-- What follows a keyword stands behind its colon. -/
theorem after?_eq_some {header : Text} (h : k.after? t = some header) :
    ∃ word, k.IsWord word ∧ t = word ++ header := by
  obtain ⟨name, gap, rfl, hname, hgap⟩ := after?_eq_some_iff.mp h
  refine ⟨name ++ gap ++ [':'], ⟨fun c hc => ?_, ?_⟩, by simp⟩
  · simp only [List.mem_append, List.mem_singleton] at hc
    rcases hc with (hc | hc) | hc
    · exact .inl (hname ▸ List.mem_map_of_mem hc)
    · exact .inr (.inl (hgap c hc))
    · exact .inr (.inr hc)
  · obtain ⟨c, w, hk, -, -⟩ := k.exists_name_eq_cons
    cases name with
    | nil =>
      rw [hk] at hname
      cases hname
    | cons a name => exact ⟨a, rfl, hname ▸ List.mem_cons_self⟩

theorem afterWord?_append_of_some {w rest : Text} (h : afterWord? w t = some rest) (s : Text) :
    afterWord? w (t ++ s) = some (rest ++ s) := by
  fun_induction afterWord? w t with
  | case1 =>
    cases h
    rw [afterWord?]
  | case2 w word c t hc ih =>
    rw [List.cons_append, afterWord?, if_pos hc]
    exact ih h
  | case3 => cases h
  | case4 => cases h

/-- A keyword is read the same, however the text goes on behind its colon. -/
theorem after?_append_of_some {header : Text} (h : k.after? t = some header) (s : Text) :
    k.after? (t ++ s) = some (header ++ s) := by
  unfold after? at h ⊢
  split at h
  · rename_i rest hw
    rw [afterWord?_append_of_some hw]
    split at h
    · rename_i hd
      cases h
      have hne : rest.dropWhile Text.isGap ≠ [] := by simp [hd]
      dsimp only
      rw [List.dropWhile_append, if_neg (by simpa using hne), hd]
      rfl
    · cases h
  · cases h

end Keyword

/-! ## Headers -/

/-- A header stands on one line and holds no brace. -/
structure IsHeader (h : Text) : Prop where
  no_open : '\x7b' ∉ h
  no_close : '\x7d' ∉ h
  no_break : '\n' ∉ h

/-- A header goes up to an opening brace on its own line. -/
theorem header?_eq_some {header after : Text} (h : header? t = some (header, after)) :
    t = header ++ '\x7b' :: after ∧ IsHeader header := by
  induction t generalizing header with
  | nil => cases h
  | cons c t ih =>
    unfold header? at h
    split at h
    · rename_i hc
      cases h
      cases eq_of_beq hc
      exact ⟨rfl, by simp, by simp, by simp⟩
    · rename_i ho
      split at h
      · cases h
      · rename_i hc
        obtain ⟨⟨b, a⟩, hb, he⟩ := Option.map_eq_some_iff.mp h
        cases he
        obtain ⟨rfl, hh⟩ := ih hb
        simp only [beq_iff_eq, Bool.or_eq_true, not_or] at ho hc
        exact ⟨rfl, by simp [Ne.symm ho, hh.no_open], by simp [Ne.symm hc.1, hh.no_close],
          by simp [Ne.symm hc.2, hh.no_break]⟩

/-- A line break ends the search for the brace of a header. -/
theorem header?_append_line (t s : Text) :
    header? (t ++ '\n' :: s) =
      (header? t).map fun (header, after) => (header, after ++ '\n' :: s) := by
  induction t with
  | nil => rfl
  | cons c t ih =>
    unfold header?
    rw [List.cons_append]
    dsimp only
    rw [ih, Option.map_map]
    split
    · rfl
    · split
      · rfl
      · rw [Option.map_map]
        rfl

/-! ## Option groups -/

theorem group?_space {c : Char} (hc : Text.isSpace c = true) (t : Text) :
    group? (c :: t) = (group? t).map fun (group, after) => (c :: group, after) := by
  unfold group?
  rw [List.dropWhile_cons_of_pos hc, List.takeWhile_cons_of_pos hc]
  cases t.dropWhile Text.isSpace with
  | nil => rfl
  | cons d rest =>
    by_cases hd : d = '['
    · subst hd
      change Option.map _ (Text.splitOnce (· == ']') rest) =
        Option.map _ (Option.map _ (Text.splitOnce (· == ']') rest))
      rw [Option.map_map]
      rfl
    · simp [hd]

theorem group?_open (t : Text) :
    group? ('[' :: t) = (Text.splitOnce (· == ']') t).map fun (inner, after) =>
      ('[' :: inner ++ [']'], after) := rfl

theorem group?_other {c : Char} (hs : Text.isSpace c = false) (hc : c ≠ '[') (t : Text) :
    group? (c :: t) = none := by
  refine group?_eq_none ?_
  rw [List.dropWhile_cons_of_neg (by simp [hs])]
  simpa using hc

/-- A group is blanks and brackets with no closing bracket between them. -/
theorem group?_eq_some {group after : Text} (h : group? t = some (group, after)) :
    t = group ++ after ∧ ∃ blank inner, group = blank ++ '[' :: inner ++ [']'] ∧
      (∀ c ∈ blank, Text.isSpace c = true) ∧ ']' ∉ inner := by
  induction t generalizing group with
  | nil => cases h
  | cons c t ih =>
    by_cases hs : Text.isSpace c = true
    · rw [group?_space hs] at h
      obtain ⟨⟨g, a⟩, hg, he⟩ := Option.map_eq_some_iff.mp h
      cases he
      obtain ⟨rfl, blank, inner, rfl, hb, hi⟩ := ih hg
      exact ⟨rfl, c :: blank, inner, rfl, List.forall_mem_cons.mpr ⟨hs, hb⟩, hi⟩
    by_cases hc : c = '['
    · subst hc
      rw [group?_open] at h
      obtain ⟨⟨inner, a⟩, hg, he⟩ := Option.map_eq_some_iff.mp h
      cases he
      obtain ⟨d, hd, rfl, hi⟩ := Text.splitOnce_eq_some hg
      cases eq_of_beq hd
      refine ⟨by simp, [], inner, rfl, by simp, fun hm => ?_⟩
      exact absurd (hi _ hm) (by decide)
    · rw [group?_other (by simpa using hs) hc] at h
      cases h

theorem optionRun_append (t : Text) : (optionRun t).1 ++ (optionRun t).2 = t := by
  fun_induction optionRun t with
  | case1 t group after hg more rest hr ih =>
    rw [hr] at ih
    rw [(group?_eq_some hg).1, List.append_assoc, ih]
  | case2 => rfl

/-- The group at any place of `t` is the same where `s` follows. -/
def GroupsEnd (t s : Text) : Prop :=
  ∀ u, u <:+ t → group? (u ++ s) = (group? u).map fun (group, after) => (group, after ++ s)

/-- No bracket of `t` is open where `s` begins, or else `s` closes none. -/
theorem groupsEnd_of_closed (hs : group? s = none)
    (h : ']' ∈ s → '[' ∉ Text.afterLast (· == ']') t) : GroupsEnd t s := by
  intro u
  induction u with
  | nil =>
    intro _
    exact hs
  | cons c u ih =>
    intro hu
    rw [List.cons_append]
    by_cases hspace : Text.isSpace c = true
    · rw [group?_space hspace, group?_space hspace, ih ((List.suffix_cons c u).trans hu),
        Option.map_map, Option.map_map]
      rfl
    by_cases hc : c = '['
    · subst hc
      rw [group?_open, group?_open]
      cases hg : Text.splitOnce (· == ']') u with
      | some r =>
        rw [Text.splitOnce_append_of_some hg]
        rfl
      | none =>
        have hclose : ']' ∉ u := fun hm =>
          absurd (Text.forall_of_splitOnce_eq_none hg _ hm) (by decide)
        have hs' : ']' ∉ s := by
          intro hm
          obtain ⟨w, rfl⟩ := hu
          exact h hm (Text.mem_afterLast (by decide) (Text.beq_eq_false_of_mem hclose) w)
        rw [Text.splitOnce_eq_none (Text.beq_eq_false_of_mem (by simp [hclose, hs']))]
        rfl
    · rw [group?_other (by simpa using hspace) hc, group?_other (by simpa using hspace) hc]
      rfl

/-! ## Openings -/

/-- The text of a block, from its keyword to the end of its option groups. -/
def pieces (word header body trailer : Text) : Text :=
  word ++ (header ++ '\x7b' :: (body ++ '\x7d' :: trailer))

/-- The braces of a block are matched up to its option groups. -/
theorem braceDepth?_pieces {word header body : Text} (hw : k.IsWord word) (hh : IsHeader header)
    (hb : braceDepth? 0 body = some 0) (trailer after : Text) :
    braceDepth? 0 (pieces word header body trailer ++ after) =
      braceDepth? 0 (trailer ++ after) := by
  have htext : pieces word header body trailer ++ after =
      word ++ (header ++ '\x7b' :: (body ++ '\x7d' :: (trailer ++ after))) := by
    simp [pieces]
  rw [htext, braceDepth?_append_of_not_mem hw.no_brace.1 hw.no_brace.2,
    braceDepth?_append_of_not_mem hh.no_open hh.no_close, braceDepth?_open, braceDepth?_append,
    braceDepth?_add hb 1, Option.bind_some, braceDepth?_close_succ]

/-- The brace behind a header has a match where the text comes down to depth zero. -/
theorem body?_ne_none_of_braceDepth {word header after : Text} {d : Nat} (hw : k.IsWord word)
    (hh : IsHeader header) (hd : braceDepth? d (word ++ header ++ ['\x7b'] ++ after) = some 0) :
    body? 0 after ≠ none := by
  rw [List.append_assoc, List.append_assoc,
    braceDepth?_append_of_not_mem hw.no_brace.1 hw.no_brace.2,
    braceDepth?_append_of_not_mem hh.no_open hh.no_close, List.singleton_append,
    braceDepth?_open] at hd
  obtain ⟨body, behind, hbody, -⟩ := body?_of_braceDepth (e := 0) hd
  rw [hbody]
  nofun

/-- What makes the pieces a block where `after` follows them. -/
structure IsBlock (k : Keyword) (word header body trailer after : Text) : Prop where
  is_word : k.IsWord word
  is_header : IsHeader header
  balanced : ∀ d, braceDepth? d body = some d
  groups : optionRun (trailer ++ after) = (trailer, after)
  reads : k.after? (pieces word header body trailer ++ after) =
    some (header ++ '\x7b' :: (body ++ '\x7d' :: (trailer ++ after)))

/-- The block whose keyword stands at a position. -/
def Block.opened (pos lead : Nat) (header body trailer : Text) : Block :=
  let bodyStart := pos + lead + header.length + 1
  ⟨pos, ⟨pos + lead, header⟩, ⟨bodyStart, body⟩, ⟨bodyStart + body.length + 1, trailer⟩⟩

/-- A block is as long as its pieces. -/
theorem Block.stop_opened (pos : Nat) (word header body trailer : Text) :
    (opened pos word.length header body trailer).stop =
      pos + (pieces word header body trailer).length := by
  simp only [opened, stop, Fragment.stop, pieces, List.length_append, List.length_cons]
  omega

namespace Opening

/-- The pieces that a text falls into where a keyword opens something. -/
def Fits (k : Keyword) (t : Text) : Opening → Prop
  | .none => True
  | .noBrace size after =>
    ∃ word, k.IsWord word ∧ t = word ++ after ∧ size = word.length ∧ header? after = Option.none
  | .unmatchedBrace size after =>
    ∃ word header, k.IsWord word ∧ IsHeader header ∧ t = word ++ (header ++ '\x7b' :: after) ∧
      size = word.length + header.length + 1 ∧ body? 0 after = Option.none
  | .block lead header body trailer after =>
    ∃ word, IsBlock k word header body trailer after ∧
      t = pieces word header body trailer ++ after ∧ lead = word.length

/-- What a keyword opens is made of pieces of the text behind it. -/
theorem fits_read (k : Keyword) (t : Text) : (read k t).Fits k t := by
  unfold read
  split
  · trivial
  · rename_i afterColon hk
    obtain ⟨word, hw, rfl⟩ := Keyword.after?_eq_some hk
    have hlead : (word ++ afterColon).length - afterColon.length = word.length := by simp
    dsimp only
    rw [hlead]
    split
    · rename_i hh
      exact ⟨word, hw, rfl, rfl, hh⟩
    · rename_i header afterBrace hh
      obtain ⟨rfl, hheader⟩ := header?_eq_some hh
      split
      · rename_i hb
        exact ⟨word, header, hw, hheader, rfl, rfl, hb⟩
      · rename_i body behind hb
        obtain ⟨rfl, hbody⟩ := body?_eq_some hb
        have hgroups : optionRun ((optionRun behind).1 ++ (optionRun behind).2) =
            ((optionRun behind).1, (optionRun behind).2) := by
          rw [optionRun_append]
        have htext : word ++ (header ++ '\x7b' :: (body ++ '\x7d' :: behind)) =
            pieces word header body (optionRun behind).1 ++ (optionRun behind).2 := by
          simp [pieces, optionRun_append]
        refine ⟨word, ⟨hw, hheader, hbody, hgroups, ?_⟩, htext, rfl⟩
        rw [← htext, optionRun_append]
        exact hk

theorem fits_readIf {allowed : Bool} {o : Opening} (h : readIf allowed k t = o) : o.Fits k t := by
  subst h
  unfold readIf
  split
  · exact fits_read k t
  · trivial

end Opening

theorem after?_of_read_eq_none (h : Opening.read k t = .none) : k.after? t = none := by
  unfold Opening.read at h
  split at h
  · assumption
  · dsimp only at h
    split at h
    · cases h
    · split at h <;> cases h

/-! ## Steps of a scan -/

/-- How a scan goes on where a character that is no brace, and `rest` behind it, open something. -/
def Opening.goOn (k : Keyword) (pos depth : Nat) (c : Char) (rest : Text) : Opening → Scan
  | .none => scanFrom k (pos + 1) depth (boundsKeyword c) rest
  | .noBrace size after => (scanFrom k (pos + size) 0 false after).consMalformed ⟨pos, .noBrace⟩
  | .unmatchedBrace size after =>
    (scanFrom k (pos + size) 0 true after).consMalformed ⟨pos, .unmatchedBrace⟩
  | .block lead header body trailer after =>
    (scanFrom k (Block.opened pos lead header body trailer).stop 0 trailer.isEmpty after).consBlock
      (.opened pos lead header body trailer)

/-- A scan goes on from a character by what opens there. -/
theorem scanFrom_step {c : Char} {rest : Text} (ho : c ≠ '\x7b') (hc : c ≠ '\x7d')
    (pos depth : Nat) (b : Bool) :
    scanFrom k pos depth b (c :: rest) =
      (Opening.readIf (depth == 0 && b) k (c :: rest)).goOn k pos depth c rest := by
  rw [scanFrom, if_neg (by simpa using ho), if_neg (by simpa using hc)]
  split
  all_goals
    rename_i hr
    exact (congrArg (Opening.goOn k pos depth c rest) hr).symm

/-- A step where a keyword may stand. -/
theorem scanFrom_read {c : Char} {rest : Text} (ho : c ≠ '\x7b') (hc : c ≠ '\x7d') (pos : Nat) :
    scanFrom k pos 0 true (c :: rest) =
      (Opening.read k (c :: rest)).goOn k pos 0 c rest := scanFrom_step ho hc pos 0 true

end PageRules.RuleText
