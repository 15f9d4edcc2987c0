import Mathlib
import PageRules.Proofs.RuleText.Place

/-!
# What a scan comes upon

A scan passes over no keyword that begins a line: it stands in a block that is found, it is found
malformed, or it stands in braces (`Scans.covers`). The blocks follow one another
(`Scans.pairwise`).
-/

namespace PageRules

namespace RuleText

variable {k : Keyword} {t u v : Text}

/-! ## Open braces -/

/-- The braces open behind a text; one that closes nothing is passed over. -/
def openBraces (d : Nat) : Text → Nat
  | [] => d
  | c :: t => openBraces (if c = '\x7b' then d + 1 else if c = '\x7d' then d - 1 else d) t

theorem openBraces_append (d : Nat) (s t : Text) :
    openBraces d (s ++ t) = openBraces (openBraces d s) t := by
  induction s generalizing d with
  | nil => rfl
  | cons c s ih => exact ih _

/-! ## Fronts of lines -/

/-- Nothing but white space stands before the end of the text on its line. -/
def BlankFront (u : Text) : Prop := ∀ c ∈ Text.afterLast (· == '\n') u, Text.isBlank c = true

instance (u : Text) : Decidable (BlankFront u) :=
  List.decidableBAll (fun c => Text.isBlank c = true) _

theorem BlankFront.suffix {s : Text} (h : BlankFront u) (hs : s <:+ u) : BlankFront s := by
  obtain ⟨r, rfl⟩ := hs
  exact fun c hc => h c ((Text.afterLast_suffix _ r s).subset hc)

/-- What stands on the line is white space. -/
theorem BlankFront.isBlank {r s : Text} {c : Char} (h : BlankFront (r ++ s)) (hs : '\n' ∉ s)
    (hc : c ∈ s) : Text.isBlank c = true := by
  refine h.suffix (List.suffix_append r s) c ?_
  rw [Text.afterLast_eq_self (Text.beq_eq_false_of_mem hs)]
  exact hc

/-! ## Keywords -/

theorem isBlank_of_toLower_mem {c : Char} (h : c.toLower ∈ k.name) : Text.isBlank c = false := by
  have hall : k.name.all (!Text.isBlank ·) = true := by cases k <;> rfl
  by_contra hb
  rw [Bool.not_eq_false] at hb
  have hupper : ¬ c.isUpper = true := by
    intro hu
    simp only [Text.isBlank, Bool.or_eq_true, Bool.and_eq_true, decide_eq_true_eq,
      beq_iff_eq] at hb
    simp only [Char.isUpper, ge_iff_le, UInt32.le_iff_toNat_le, decide_eq_true_eq] at hu
    change 65 ≤ c.toNat ∧ c.toNat ≤ 90 at hu
    omega
  rw [Char.toLower_eq_of_not_isUpper hupper] at h
  have hn := List.all_eq_true.mp hall c h
  rw [hb] at hn
  cases hn

/-- No part of a keyword and its header is the front of a line that is blank so far. -/
theorem Keyword.IsWord.not_blankFront {word header s : Text} (hw : k.IsWord word)
    (hh : '\n' ∉ header) (hs : s ≠ []) (hp : s <+: word ++ header) (r : Text) :
    ¬ BlankFront (r ++ s) := by
  intro h
  obtain ⟨a, ha, hlower⟩ := hw.head
  obtain ⟨w, rfl⟩ := List.head?_eq_some_iff.mp ha
  obtain ⟨c, s, rfl⟩ := List.exists_cons_of_ne_nil hs
  obtain rfl : c = a := by
    obtain ⟨z, hz⟩ := hp
    exact (List.cons.inj hz).1
  have hbreak : '\n' ∉ c :: s := by
    intro hm
    rcases List.mem_append.mp (hp.subset hm) with hm | hm
    · exact hw.no_break hm
    · exact hh hm
  have hblank := h.isBlank hbreak List.mem_cons_self
  rw [isBlank_of_toLower_mem hlower] at hblank
  cases hblank

theorem head_of_after? {c : Char} {h : Text} (hk : k.after? (c :: t) = some h) :
    c.toLower ∈ k.name.head? := by
  unfold Keyword.after? at hk
  split at hk
  · rename_i rest hw
    obtain ⟨a, w, hname, -, -⟩ := k.exists_name_eq_cons
    rw [hname] at hw ⊢
    rw [Keyword.afterWord?] at hw
    split at hw
    · rename_i hc
      exact congrArg some (eq_of_beq hc)
    · cases hw
  · cases hk

/-! ## Bounds of keywords -/

/-- A keyword may stand behind the text, where `b` says whether one may stand at its front. -/
def boundedBehind (b : Bool) : Text → Bool
  | [] => b
  | c :: t => boundedBehind (boundsKeyword c) t

theorem boundedBehind_append (b : Bool) (s t : Text) :
    boundedBehind b (s ++ t) = boundedBehind (boundedBehind b s) t := by
  induction s generalizing b with
  | nil => rfl
  | cons c s ih => exact ih _

theorem boundedBehind_of_ne_nil (ht : t ≠ []) (b b' : Bool) :
    boundedBehind b t = boundedBehind b' t := by
  cases t with
  | nil => exact absurd rfl ht
  | cons c t => rfl

/-- No keyword stands directly behind an option group. -/
theorem boundedBehind_optionRun (b : Bool) (t : Text) :
    boundedBehind b (optionRun t).1 = (b && (optionRun t).1.isEmpty) := by
  fun_induction optionRun t generalizing b with
  | case1 t group after hg more rest hr ih =>
    obtain ⟨-, blank, inner, rfl, -, -⟩ := group?_eq_some hg
    rw [hr] at ih
    have hgroup : boundedBehind b (blank ++ '[' :: inner ++ [']']) = false := by
      rw [boundedBehind_append]
      rfl
    have hne : (blank ++ '[' :: inner ++ [']'] ++ more).isEmpty = false := by simp
    rw [boundedBehind_append, hgroup, ih, hne, Bool.and_false, Bool.false_and]
  | case2 => simp [boundedBehind]

theorem IsBlock.boundedBehind_pieces {word header body trailer after : Text}
    (h : IsBlock k word header body trailer after) (b : Bool) :
    boundedBehind b (pieces word header body trailer) = trailer.isEmpty := by
  have htrailer := boundedBehind_optionRun true (trailer ++ after)
  rw [h.groups, Bool.true_and] at htrailer
  rw [pieces, boundedBehind_append, boundedBehind_append]
  exact (boundedBehind_append _ body _).trans htrailer

/-! ## Coverage -/

/-- A line that is blank so far has left the keyword and the header of a line before. -/
theorem Keyword.IsWord.exists_of_blankFront {word header after : Text} (hw : k.IsWord word)
    (hh : '\n' ∉ header) (ht : word ++ header ++ after = u ++ v) (hu : u ≠ [])
    (hfront : BlankFront u) : ∃ s, s ≠ [] ∧ u = word ++ header ++ s ∧ after = s ++ v := by
  rcases List.append_eq_append_iff.mp ht with ⟨s, rfl, rfl⟩ | ⟨s, hs, rfl⟩
  · refine ⟨s, ?_, rfl, rfl⟩
    rintro rfl
    rw [List.append_nil] at hu hfront
    exact hw.not_blankFront hh hu (List.prefix_refl _) [] hfront
  · exact absurd hfront (hw.not_blankFront hh hu ⟨s, hs.symm⟩ [])

/-- A keyword stands behind every character that is no letter of it. -/
theorem exists_cons_of_after? {c : Char} (hc : c.toLower ∉ k.name) (ht : c :: t = u ++ v)
    (hk : (k.after? v).isSome) : ∃ s, u = c :: s ∧ t = s ++ v := by
  rcases List.cons_eq_append_iff.mp ht with ⟨rfl, rfl⟩ | ⟨s, rfl, rfl⟩
  · rw [Keyword.after?_cons_of_not_letter hc] at hk
    cases hk
  · exact ⟨s, rfl, rfl⟩

/-- The block holds the position. -/
def Block.Covers (b : Block) (p : Nat) : Prop := b.start ≤ p ∧ p < b.stop

instance (b : Block) (p : Nat) : Decidable (b.Covers p) :=
  inferInstanceAs (Decidable (b.start ≤ p ∧ p < b.stop))

/-- The fragment holds the position. -/
def Fragment.Covers (f : Fragment) (p : Nat) : Prop := f.start ≤ p ∧ p < f.stop

instance (f : Fragment) (p : Nat) : Decidable (f.Covers p) :=
  inferInstanceAs (Decidable (f.start ≤ p ∧ p < f.stop))

/-- The position is in a block that the scan finds, or at a keyword that it finds malformed. -/
def Scan.Meets (scan : Scan) (p : Nat) : Prop :=
  (∃ b ∈ scan.blocks, b.Covers p) ∨ ∃ m ∈ scan.malformed, m.start = p

theorem Scan.Meets.consBlock {scan : Scan} {p : Nat} (h : scan.Meets p) (b : Block) :
    (scan.consBlock b).Meets p := by
  rcases h with ⟨b, hb, hcovers⟩ | hm
  · exact .inl ⟨b, List.mem_cons_of_mem _ hb, hcovers⟩
  · exact .inr hm

theorem Scan.Meets.consMalformed {scan : Scan} {p : Nat} (h : scan.Meets p) (m : Malformed) :
    (scan.consMalformed m).Meets p := by
  rcases h with hb | ⟨m, hm, hstart⟩
  · exact .inl hb
  · exact .inr ⟨m, List.mem_cons_of_mem _ hm, hstart⟩

/-- A keyword that opens no block is met itself, and what is behind it and its header is met where
the scan goes on from there. -/
theorem Keyword.IsWord.meets_malformed {word header after : Text} {pos d : Nat} {scan : Scan}
    {m : Malformed} (hw : k.IsWord word) (b : Bool) (hh : '\n' ∉ header)
    (ht : word ++ header ++ after = u ++ v) (hfront : BlankFront u)
    (hbounded : boundedBehind true u = true) (hm : m.start = pos)
    (hbehind : ∀ s d, after = s ++ v → BlankFront s → boundedBehind b s = true →
      scan.Meets (pos + (word ++ header).length + s.length) ∨ 0 < openBraces d s) :
    (scan.consMalformed m).Meets (pos + u.length) ∨ 0 < openBraces d u := by
  by_cases hu : u = []
  · subst hu
    exact .inl (.inr ⟨m, List.mem_cons_self, hm⟩)
  obtain ⟨s, hs, rfl, rfl⟩ := hw.exists_of_blankFront hh ht hu hfront
  rw [boundedBehind_append, boundedBehind_of_ne_nil hs _ b] at hbounded
  rw [List.length_append, ← Nat.add_assoc, openBraces_append]
  exact (hbehind s _ rfl (hfront.suffix (List.suffix_append ..)) hbounded).imp_left
    (·.consMalformed m)

/-- A scan comes upon every keyword that begins a line, but where braces are open before it. -/
theorem Scans.covers {pos depth d : Nat} {bounded : Bool} {scan : Scan}
    (h : Scans k pos depth bounded t scan) (ht : t = u ++ v) (hk : (k.after? v).isSome)
    (hfront : BlankFront u) (hbounded : boundedBehind bounded u = true) (hd : depth ≤ d) :
    scan.Meets (pos + u.length) ∨ 0 < openBraces d u := by
  -- The scan counts no more open braces than there are, which is all of `d` that the steps keep.
  induction h generalizing u d with
  | nil =>
    obtain ⟨-, rfl⟩ := List.append_eq_nil_iff.mp ht.symm
    simp at hk
  | openBrace _ ih =>
    obtain ⟨s, rfl, rfl⟩ := exists_cons_of_after? (k.barrier_open).not_letter ht hk
    rw [List.length_cons, Nat.add_comm s.length, ← Nat.add_assoc]
    exact ih rfl (hfront.suffix (List.suffix_cons ..)) hbounded (Nat.succ_le_succ hd)
  | closeBrace _ ih =>
    obtain ⟨s, rfl, rfl⟩ := exists_cons_of_after? k.barrier_close.not_letter ht hk
    rw [List.length_cons, Nat.add_comm s.length, ← Nat.add_assoc]
    exact ih rfl (hfront.suffix (List.suffix_cons ..)) hbounded (Nat.sub_le_sub_right hd 1)
  | @char pos depth bounded c t scan ho hc hnone _ ih =>
    rcases List.cons_eq_append_iff.mp ht with ⟨rfl, rfl⟩ | ⟨s, rfl, rfl⟩
    · by_cases hzero : depth = 0
      · rw [hnone hzero hbounded] at hk
        cases hk
      · exact .inr ((Nat.pos_of_ne_zero hzero).trans_le hd)
    · have hopen : openBraces d (c :: s) = openBraces d s := by
        rw [openBraces, if_neg ho, if_neg hc]
      rw [List.length_cons, Nat.add_comm s.length, ← Nat.add_assoc, hopen]
      exact ih rfl (hfront.suffix (List.suffix_cons ..)) hbounded hd
  | @noBrace pos word after scan hw hh _ ih =>
    have htext : word ++ [] ++ after = u ++ v := by rw [List.append_nil, ht]
    refine hw.meets_malformed false (by simp) htext hfront hbounded rfl
      fun s d hs hfront hbounded => ?_
    rw [List.append_nil]
    exact ih hs hfront hbounded (Nat.zero_le d)
  | @unmatchedBrace pos word header after scan hw hh hb _ ih =>
    have hbreak : '\n' ∉ header ++ ['\x7b'] := by simpa using hh.no_break
    have htext : word ++ (header ++ ['\x7b']) ++ after = u ++ v := by
      rw [← List.append_assoc, ht]
    refine hw.meets_malformed true hbreak htext hfront hbounded rfl
      fun s d hs hfront hbounded => ?_
    rw [← List.append_assoc]
    exact ih hs hfront hbounded (Nat.zero_le d)
  | @block pos word header body trailer after scan hb _ ih =>
    by_cases hlt : u.length < (pieces word header body trailer).length
    · refine .inl (.inl ⟨_, List.mem_cons_self, ?_, ?_⟩)
      · exact Nat.le_add_right ..
      · rw [Block.stop_opened]
        exact Nat.add_lt_add_left hlt pos
    · have hprefix : pieces word header body trailer <+: u :=
        List.prefix_of_prefix_length_le ⟨after, rfl⟩ ⟨v, ht.symm⟩ (Nat.le_of_not_lt hlt)
      obtain ⟨s, rfl⟩ := hprefix
      rw [List.append_assoc] at ht
      obtain rfl := List.append_cancel_left ht
      rw [boundedBehind_append, hb.boundedBehind_pieces] at hbounded
      rw [List.length_append, ← Nat.add_assoc, openBraces_append]
      exact (ih rfl (hfront.suffix (List.suffix_append ..)) hbounded (Nat.zero_le _)).imp_left
        (·.consBlock _)

/-- The blocks of a scan stand apart and in order. -/
theorem Scans.pairwise {pos depth : Nat} {bounded : Bool} {scan : Scan}
    (h : Scans k pos depth bounded t scan) :
    scan.blocks.Pairwise fun a b => a.stop ≤ b.start := by
  induction h with
  | nil => exact .nil
  | openBrace _ ih => exact ih
  | closeBrace _ ih => exact ih
  | char _ _ _ _ ih => exact ih
  | noBrace _ _ _ ih => exact ih
  | unmatchedBrace _ _ _ _ ih => exact ih
  | block _ h ih =>
    refine .cons (fun b hb => ?_) ih
    rw [Block.stop_opened]
    exact (h.standsIn hb).within.start

/-! ## Lines inside blocks -/

/-- A line inside a block begins with its keyword, or begins in its body or in its option groups. -/
theorem Block.StandsIn.line_cases {pos : Nat} {b : Block} (h : b.StandsIn k pos t) (ht : t = u ++ v)
    (hfront : BlankFront u) (hv : '\x7d' ∉ v.head?) (hcovers : b.Covers (pos + u.length)) :
    (b.start = pos + u.length ∧ (k.after? v).isSome) ∨
      (∃ s w, b.body.chars = s ++ w ∧ b.body.start + s.length = pos + u.length ∧ s <:+ u ∧
        w <+: v ∧ w ≠ []) ∨ b.trailer.Covers (pos + u.length) := by
  obtain ⟨front, word, header, body, trailer, after, hb, htext, rfl⟩ := h
  obtain ⟨hstart, hstop⟩ := hcovers
  have hprefix : front <+: u := by
    refine List.prefix_of_prefix_length_le ⟨_, rfl⟩ ⟨v, (htext.symm.trans ht).symm⟩ ?_
    exact Nat.le_of_add_le_add_left hstart
  obtain ⟨r, rfl⟩ := hprefix
  rw [ht, List.append_assoc] at htext
  have hrest := (List.append_cancel_left htext).symm
  by_cases hr : r = []
  · subst hr
    refine .inl ⟨by rw [List.append_nil]; rfl, ?_⟩
    rw [← List.nil_append v, ← hrest, hb.reads]
    rfl
  have hbreak : '\n' ∉ header ++ ['\x7b'] := by simpa using hb.is_header.no_break
  have hline : word ++ (header ++ ['\x7b']) ++ (body ++ '\x7d' :: (trailer ++ after)) = r ++ v := by
    rw [← hrest]
    simp [pieces]
  obtain ⟨s, -, rfl, hbody⟩ := hb.is_word.exists_of_blankFront hbreak hline hr
    (hfront.suffix (List.suffix_append ..))
  right
  by_cases hlt : s.length < body.length
  · have hs : s <+: body :=
      List.prefix_of_prefix_length_le ⟨v, hbody.symm⟩ ⟨_, rfl⟩ (Nat.le_of_lt hlt)
    obtain ⟨w, rfl⟩ := hs
    rw [List.append_assoc] at hbody
    refine .inl ⟨s, w, rfl, ?_, ?_, ⟨_, List.append_cancel_left hbody⟩, ?_⟩
    · simp only [opened, List.length_append, List.length_cons, List.length_nil]
      omega
    · exact ⟨front ++ (word ++ (header ++ ['\x7b'])), by simp⟩
    · rintro rfl
      simp at hlt
  · right
    have hne : s.length ≠ body.length := by
      intro heq
      obtain ⟨-, rfl⟩ := List.append_inj hbody heq.symm
      exact hv rfl
    refine ⟨?_, hstop⟩
    simp only [opened, List.length_append, List.length_cons, List.length_nil]
    omega

end RuleText
end PageRules
