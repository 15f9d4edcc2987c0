import Mathlib
import PageRules.Proofs.RuleText.Comment
import PageRules.Proofs.RuleText.Coverage
import PageRules.Proofs.RuleText.Scopes

/-!
# Headers of path blocks

Stripping looks back on a line to tell the header of a path from what a comment may open in, and the
scan for paths reads forward. Where the scan finds a block, the line up to any place in its header
is in the header of a path (`IsBlock.inHeader`), so no comment opens there, and one that opens
before would have blanked the colon. A header is therefore kept as it was written
(`path_header_kept`).
-/

namespace PageRules.RuleText

variable {k : Keyword} {t : Text}

/-! ## Bounds of keywords -/

theorem boundedBehind_eq (b : Bool) (t : Text) :
    boundedBehind b t = (t.getLast?.map boundsKeyword).getD b := by
  induction t generalizing b with
  | nil => rfl
  | cons c t ih =>
    rw [boundedBehind, ih, List.getLast?_cons]
    cases t.getLast? with
    | none => rfl
    | some d => rfl

theorem boundedBehind_mono {b b' : Bool} (h : b = true → b' = true)
    (ht : boundedBehind b t = true) : boundedBehind b' t = true := by
  rw [boundedBehind_eq] at ht ⊢
  cases hlast : t.getLast? with
  | none =>
    rw [hlast] at ht
    exact h ht
  | some c =>
    rw [hlast] at ht
    exact ht

/-- Where a scan allows a keyword, stripping does so too. -/
theorem boundsHeader_of_boundsKeyword {c : Char} (h : boundsKeyword c = true) :
    boundsHeader c = true := by
  simp only [boundsKeyword, boundsHeader, Text.isSpace, Bool.or_eq_true, beq_iff_eq] at h ⊢
  tauto

/-- The pieces of the block follow one another behind a front where a keyword may stand. -/
def Block.OpensIn (k : Keyword) (pos : Nat) (bounded : Bool) (t : Text) (b : Block) : Prop :=
  ∃ front word header body trailer after, IsBlock k word header body trailer after ∧
    t = front ++ (pieces word header body trailer ++ after) ∧
    b = .opened (pos + front.length) word.length header body trailer ∧
    boundedBehind bounded front = true

theorem Block.OpensIn.append {pos : Nat} {bounded bounded' : Bool} {b : Block} {s : Text}
    (h : b.OpensIn k (pos + s.length) bounded' t)
    (hs : bounded' = true → boundedBehind bounded s = true) :
    b.OpensIn k pos bounded (s ++ t) := by
  obtain ⟨front, word, header, body, trailer, after, hb, rfl, rfl, hfront⟩ := h
  refine ⟨s ++ front, word, header, body, trailer, after, hb, (List.append_assoc ..).symm, ?_, ?_⟩
  · rw [List.length_append, Nat.add_assoc]
  · rw [boundedBehind_append]
    exact boundedBehind_mono hs hfront

theorem Scans.opensIn {pos depth : Nat} {bounded : Bool} {scan : Scan} {b : Block}
    (h : Scans k pos depth bounded t scan) (hb : b ∈ scan.blocks) :
    b.OpensIn k pos bounded t := by
  induction h with
  | nil => cases hb
  | openBrace _ ih => exact (ih hb).append (s := ['\x7b']) fun _ => rfl
  | closeBrace _ ih => exact (ih hb).append (s := ['\x7d']) fun _ => rfl
  | @char _ _ _ c _ _ _ _ _ _ ih => exact (ih hb).append (s := [c]) id
  | noBrace _ _ _ ih => exact (ih hb).append nofun
  | unmatchedBrace _ _ _ _ ih =>
    refine (ih hb).append fun _ => ?_
    rw [boundedBehind_append]
    rfl
  | block hblock _ ih =>
    rcases List.mem_cons.mp hb with rfl | hb
    · exact ⟨[], _, _, _, _, _, hblock, rfl, rfl, rfl⟩
    · exact (ih hb).append fun hempty => (hblock.boundedBehind_pieces true).trans hempty

/-! ## Headers -/

/-- The word of a block is its keyword, in any letter case, blanks and the colon. -/
theorem IsBlock.word_eq {word header body trailer after : Text}
    (h : IsBlock k word header body trailer after) :
    ∃ name gap, word = name ++ (gap ++ [':']) ∧ Text.lower name = k.name ∧
      ∀ c ∈ gap, Text.isGap c = true := by
  obtain ⟨name, gap, htext, hname, hgap⟩ := Keyword.after?_eq_some_iff.mp h.reads
  refine ⟨name, gap, ?_, hname, hgap⟩
  have hrest : word ++ (header ++ '\x7b' :: (body ++ '\x7d' :: (trailer ++ after))) =
      name ++ (gap ++ [':']) ++ (header ++ '\x7b' :: (body ++ '\x7d' :: (trailer ++ after))) := by
    simpa [pieces] using htext
  exact List.append_cancel_right hrest

/-- The line up to a place in the header of a path block is in the header of a path. -/
theorem IsBlock.inHeader {front word header body trailer after s : Text}
    (h : IsBlock .path word header body trailer after) (hfront : boundedBehind true front = true)
    (hs : s <+: header) :
    InHeader (Text.afterLast (· == '\n') (front ++ (word ++ s))) := by
  obtain ⟨name, gap, rfl, hname, hgap⟩ := h.word_eq
  have hbreak : '\n' ∉ name ++ (gap ++ [':']) ++ s := by
    intro hm
    rcases List.mem_append.mp hm with hm | hm
    · exact h.is_word.no_break hm
    · exact h.is_header.no_break (hs.subset hm)
  rw [Text.afterLast_append (Text.beq_eq_false_of_mem hbreak)]
  refine ⟨Text.afterLast (· == '\n') front, name, gap, s, by simp, hname, hgap, fun c hc => ?_,
    fun hm => h.is_header.no_open (hs.subset hm), fun hm => h.is_header.no_close (hs.subset hm)⟩
  have hlast := Option.mem_def.mp (Text.getLast?_of_afterLast hc)
  rw [boundedBehind_eq, hlast] at hfront
  exact boundsHeader_of_boundsKeyword hfront

/-- The text falls apart before any place in the header of a block. -/
theorem take_pieces (front word header body trailer after : Text) {i : Nat}
    (hi : i ≤ header.length) :
    (front ++ (pieces word header body trailer ++ after)).take (front.length + (word.length + i)) =
      front ++ (word ++ header.take i) := by
  rw [pieces, List.take_length_add_append, List.append_assoc, List.take_length_add_append,
    List.append_assoc, List.take_append_of_le_length hi]

theorem getElem?_pieces (front word header body trailer after : Text) {i : Nat}
    (hi : i < header.length) :
    (front ++ (pieces word header body trailer ++ after))[front.length + (word.length + i)]? =
      some header[i] := by
  rw [pieces, List.getElem?_append_right (Nat.le_add_right ..), Nat.add_sub_cancel_left,
    List.append_assoc, List.getElem?_append_right (Nat.le_add_right ..), Nat.add_sub_cancel_left,
    List.append_assoc, List.getElem?_append_left hi, List.getElem?_eq_getElem hi]

/-- No comment goes over a place in the header of a path block. -/
theorem IsBlock.header_clear {cs : List Comment} {front word header body trailer after : Text}
    {i : Nat} (h : IsBlock .path word header body trailer after) (hcs : AreComments t cs)
    (htext : blanked cs t = front ++ (pieces word header body trailer ++ after))
    (hfront : boundedBehind true front = true) (hi : i < header.length) :
    ∀ c ∈ cs, ¬ c.covers t (front.length + (word.length + i)) = true := by
  intro c hc hcovers
  obtain ⟨hstart, hstop⟩ := Comment.covers_iff.mp hcovers
  rcases Nat.lt_or_ge c.start (front.length + word.length) with hlt | hge
  · -- one that opens in front of the header goes over the colon as well
    obtain ⟨name, gap, rfl, -, -⟩ := h.word_eq
    have hcolon : (blanked cs t)[(front ++ (name ++ gap)).length]? = some ':' := by
      rw [htext]
      simp [pieces]
    refine (getElem?_of_blanked (by decide) (by decide) hcolon).2 c hc ?_
    simp only [List.length_append, List.length_singleton] at hlt hstop ⊢
    exact Comment.covers_iff.mpr ⟨by omega, by omega⟩
  · -- one that opens in the header would open in the header of a path
    obtain ⟨j, hj⟩ := Nat.exists_eq_add_of_le hge
    have hopens := (hcs.starts c.start).mp ⟨c, hc, rfl⟩
    apply hopens.no_header
    rw [lineBefore, htext, hj, Nat.add_assoc, take_pieces _ _ _ _ _ _ (by omega)]
    exact h.inHeader hfront (List.take_prefix j header)

/-- A position in the header of a path block holds what it holds in the text before its comments
are blanked. -/
theorem path_header_kept {raw : Text} {b : Block} {p : Nat} (hb : b ∈ pathBlocks raw)
    (hp : b.header.Covers p) :
    ∃ c, b.header.chars[p - b.header.start]? = some c ∧ (normalize raw).text[p]? = some c ∧
      (unified raw)[p]? = some c := by
  obtain ⟨cs, hcs, hnormal, -⟩ := normalize_blanks raw
  obtain ⟨front, word, header, body, trailer, after, hblock, htext, rfl, hfront⟩ :=
    (scans_scanFrom ..).opensIn hb
  have hheader : (Block.opened ((normalFragment raw).start + front.length) word.length header body
      trailer).header = ⟨front.length + word.length, header⟩ := by
    simp [Block.opened, normalFragment]
  rw [hheader] at hp ⊢
  obtain ⟨hstart, hstop⟩ := hp
  obtain ⟨i, rfl⟩ := Nat.exists_eq_add_of_le hstart
  have hi : i < header.length := Nat.lt_of_add_lt_add_left hstop
  have hchar : (normalize raw).text[front.length + (word.length + i)]? = some header[i] :=
    (congrArg (·[front.length + (word.length + i)]?) htext).trans (getElem?_pieces _ _ _ _ _ _ hi)
  have hclear := hblock.header_clear hcs (hnormal.symm.trans htext) hfront hi
  rw [Nat.add_sub_cancel_left, Nat.add_assoc, List.getElem?_eq_getElem hi]
  refine ⟨header[i], rfl, hchar, ?_⟩
  rw [← getElem?_blanked_of_clear hclear, ← hnormal, hchar]

/-- A comment over two lines in front of a path, a glob in its header and a comment in its body. -/
def globText : Text := "/*a&#10;b*/path: /x/*/y \x7bsection: s .s \x7bt: p /* q */\x7d\x7d".toList

theorem path_header_kept_globText :
    ∃ b ∈ pathBlocks globText, b.header.Covers 15 ∧
      ∃ c, b.header.chars[15 - b.header.start]? = some c ∧
        (normalize globText).text[15]? = some c ∧ (unified globText)[15]? = some c := by
  have hheaders : (pathBlocks globText).map (·.header) = [⟨12, " /x/*/y ".toList⟩] := by
    decide +kernel
  obtain ⟨b, hblocks, hheader⟩ := List.map_eq_singleton_iff.mp hheaders
  have hb : b ∈ pathBlocks globText := hblocks ▸ List.mem_singleton_self b
  have hcovers : b.header.Covers 15 := by
    rw [hheader]
    decide
  exact ⟨b, hb, hcovers, path_header_kept hb hcovers⟩

end PageRules.RuleText
