import Mathlib
import PageRules.Proofs.RuleText.Moved
import PageRules.Proofs.RuleText.Nesting
import PageRules.Proofs.RuleText.Origin

/-!
# Lines between holes

A cursor that goes over holes in the order of their starts leaves the gaps between them (`gaps`),
and the lines outside the holes are the lines of these gaps. They stand in order, and every position
outside the holes is in exactly one of them, but for line breaks (`linesExcluding_partitions`).
-/

namespace PageRules.RuleText

open Text (octets byteOffset)

variable {f g line : Fragment} {h : Hole} {holes holes' : List Hole} {pos cursor p : Nat}
  {c : Char} {s t text : Text}

/-! ## Gaps -/

/-- The part of a fragment from one position up to another. -/
def Fragment.between (f : Fragment) (low high : Nat) : Fragment :=
  ⟨low, (f.chars.drop (low - f.start)).take (high - low)⟩

/-- The gaps between holes in the order of their starts. The cursor is behind all that the holes so
far cover. -/
def gaps (f : Fragment) (cursor : Nat) : List Hole → List Fragment
  | [] => if cursor < f.stop then [f.between cursor f.stop] else []
  | h :: holes =>
    (if cursor < h.start then [f.between cursor h.start] else []) ++
      gaps f (max cursor h.stop) holes

/-- Lines from a position on, each with a line break behind it. -/
def numberLines (pos : Nat) : List Text → List Fragment
  | [] => []
  | t :: ts => ⟨pos, t⟩ :: numberLines (pos + t.length + 1) ts

/-- The lines of the gaps between holes in any order. -/
def gapLines (f : Fragment) (holes : List Hole) : List Fragment :=
  (gaps f f.start (holes.mergeSort fun g h => g.start ≤ h.start)).flatMap fun gap =>
    numberLines gap.start (Text.lines gap.chars)

theorem linesFrom_eq_numberLines (pos : Nat) (t : Text) :
    linesFrom pos t = numberLines pos (Text.lines t) := by
  unfold Text.lines
  induction t generalizing pos with
  | nil => rfl
  | cons c t ih =>
    rw [linesFrom, Text.splitOn, ih]
    split
    · rfl
    · cases Text.splitOn (· == '\n') t with
      | nil => rfl
      | cons l ls =>
        simp only [numberLines, List.length_cons]
        rw [Nat.add_right_comm pos 1, Nat.add_assoc pos]

/-- Only what the holes cover in the text matters. -/
theorem uncovered_ext (h : ∀ p, pos ≤ p → p < pos + t.length →
    holes.any (·.covers p) = holes'.any (·.covers p)) :
    uncovered holes pos t = uncovered holes' pos t := by
  have heq : uncovered holes (pos + 0) t = (uncovered holes' pos t).map (·.shift 0) :=
    uncovered_congr fun i hi => h (pos + i) (Nat.le_add_right ..) (Nat.add_lt_add_left hi pos)
  exact heq.trans (List.map_id _)

theorem linesExcluding_ext (h : ∀ p, f.Covers p →
    holes.any (·.covers p) = holes'.any (·.covers p)) :
    linesExcluding f holes = linesExcluding f holes' := by
  rw [linesExcluding, linesExcluding, uncovered_ext fun p hlow hhigh => h p ⟨hlow, hhigh⟩]

/-- What the holes cover is left behind. -/
theorem uncovered_drop {n : Nat} (h : ∀ i < n, holes.any (·.covers (pos + i)) = true) (t : Text) :
    uncovered holes pos t = uncovered holes (pos + n) (t.drop n) := by
  induction n generalizing pos t with
  | zero => rfl
  | succ n ih =>
    cases t with
    | nil => rfl
    | cons c t =>
      have hfirst : holes.any (·.covers pos) = true := h 0 (Nat.succ_pos n)
      rw [uncovered, if_pos hfirst, ih, List.drop_succ_cons, Nat.add_right_comm, Nat.add_assoc]
      intro i hi
      rw [Nat.add_assoc, Nat.add_comm 1]
      exact h (i + 1) (Nat.succ_lt_succ hi)

/-- From inside a hole on the text is free where the other holes leave it free behind the hole. -/
theorem uncovered_cons (hlow : f.start ≤ cursor) (hh : h.start ≤ cursor) :
    uncovered (h :: holes) cursor (f.chars.drop (cursor - f.start)) =
      uncovered holes (max cursor h.stop) (f.chars.drop (max cursor h.stop - f.start)) := by
  have hcovered : ∀ i < h.stop - cursor, (h :: holes).any (·.covers (cursor + i)) = true := by
    intro i hi
    have hcovers : h.covers (cursor + i) = true :=
      Hole.covers_iff.mpr ⟨hh.trans (Nat.le_add_right ..), by omega⟩
    rw [List.any_cons, hcovers, Bool.true_or]
  have hmax : cursor + (h.stop - cursor) = max cursor h.stop := by omega
  have hdrop : cursor - f.start + (h.stop - cursor) = max cursor h.stop - f.start := by omega
  rw [uncovered_drop hcovered, hmax, List.drop_drop, hdrop]
  refine uncovered_ext fun p hp _ => ?_
  have hbehind : h.covers p = false := by
    rw [Bool.eq_false_iff, Ne, Hole.covers_iff]
    omega
  rw [List.any_cons, hbehind, Bool.false_or]

theorem Fragment.length_between {low high : Nat} (hlow : f.start ≤ low) (hhigh : high ≤ f.stop) :
    (f.between low high).chars.length = high - low := by
  rw [Fragment.stop] at hhigh
  rw [Fragment.between, List.length_take, List.length_drop]
  omega

theorem Fragment.between_append_drop {low high : Nat} (hlow : f.start ≤ low) (hle : low ≤ high) :
    (f.between low high).chars ++ f.chars.drop (high - f.start) = f.chars.drop (low - f.start) := by
  have hdrop : low - f.start + (high - low) = high - f.start := by omega
  rw [← hdrop, ← List.drop_drop]
  exact List.take_append_drop ..

/-- The text up to where holes begin is free, and apart from what is free behind them. -/
theorem uncovered_gap {stop : Nat} (hlow : f.start ≤ cursor) (hlt : cursor < stop)
    (hstop : stop ≤ f.stop) (hstarts : ∀ g ∈ holes, stop ≤ g.start)
    (hnext : ∀ g ∈ (uncovered holes stop (f.chars.drop (stop - f.start))).head?, g.start ≠ stop) :
    uncovered holes cursor (f.chars.drop (cursor - f.start)) =
      f.between cursor stop :: uncovered holes stop (f.chars.drop (stop - f.start)) := by
  have hlength : cursor + (f.between cursor stop).chars.length = stop := by
    rw [Fragment.length_between hlow hstop]
    omega
  have hne : (f.between cursor stop).chars ≠ [] := by
    intro hnil
    rw [hnil] at hlength
    exact hlt.ne hlength
  have hfree : ∀ i < (f.between cursor stop).chars.length,
      holes.any (·.covers (cursor + i)) = false := by
    intro i hi
    rw [List.any_eq_false]
    intro g hg
    have := hstarts g hg
    rw [Hole.covers_iff]
    omega
  rw [← Fragment.between_append_drop hlow hlt.le, uncovered_append_of_free _ cursor hne hfree]
  · rw [hlength]
    rfl
  · rwa [hlength]

theorem uncovered_eq_gaps (hsorted : holes.Pairwise fun g h => g.start ≤ h.start)
    (hholes : ∀ h ∈ holes, h.start < h.stop ∧ h.start ≤ f.stop) (hlow : f.start ≤ cursor) :
    uncovered holes cursor (f.chars.drop (cursor - f.start)) = gaps f cursor holes := by
  induction holes generalizing cursor with
  | nil =>
    have hend : f.chars.drop (f.stop - f.start) = [] :=
      List.drop_of_length_le (by simp [Fragment.stop])
    rw [gaps]
    split
    · rename_i hlt
      rw [uncovered_gap hlow hlt le_rfl (by simp) (by simp [hend, uncovered]), hend, uncovered]
    · rename_i hle
      rw [Fragment.stop] at hle
      rw [List.drop_of_length_le (by omega), uncovered]
  | cons h holes ih =>
    obtain ⟨hstarts, hsorted⟩ := List.pairwise_cons.mp hsorted
    obtain ⟨⟨hpos, hstop⟩, hholes⟩ := List.forall_mem_cons.mp hholes
    rw [gaps, ← ih hsorted hholes (hlow.trans (le_max_left ..))]
    split
    · rename_i hlt
      have hmax : max h.start h.stop = max cursor h.stop := by omega
      have hrest : uncovered (h :: holes) h.start (f.chars.drop (h.start - f.start)) = _ :=
        uncovered_cons (hlow.trans hlt.le) le_rfl
      rw [hmax] at hrest
      rw [uncovered_gap hlow hlt hstop (List.forall_mem_cons.mpr ⟨le_rfl, hstarts⟩), hrest]
      · rfl
      · intro g hg
        rw [hrest] at hg
        have := (within_of_mem_uncovered (List.mem_of_mem_head? hg)).start
        omega
    · rename_i hle
      rw [List.nil_append]
      exact uncovered_cons hlow (Nat.le_of_not_lt hle)

/-- The lines outside holes are those of the gaps that the holes leave. -/
theorem linesExcluding_eq_gapLines (hholes : ∀ h ∈ holes,
    h.start < h.stop ∧ f.start ≤ h.start ∧ h.start ≤ f.stop) :
    linesExcluding f holes = gapLines f holes := by
  have hperm := holes.mergeSort_perm fun g h => g.start ≤ h.start
  have hsorted : (holes.mergeSort fun g h => g.start ≤ h.start).Pairwise fun g h =>
      decide (g.start ≤ h.start) = true := by
    refine holes.pairwise_mergeSort (fun g h i hgh hhi => ?_) fun g h => ?_
    · simp only [decide_eq_true_eq] at hgh hhi ⊢
      exact hgh.trans hhi
    · simpa using Nat.le_total g.start h.start
  have hgaps := uncovered_eq_gaps (f := f) (hsorted.imp fun h => of_decide_eq_true h)
    (fun h hh => ⟨(hholes h (hperm.subset hh)).1, (hholes h (hperm.subset hh)).2.2⟩)
    (Nat.le_refl f.start)
  rw [Nat.sub_self, List.drop_zero] at hgaps
  rw [linesExcluding, gapLines, ← hgaps, uncovered_ext fun p _ _ => (hperm.any_eq).symm]
  simp only [linesFrom_eq_numberLines]

/-! ## Order -/

theorem uncovered_pairwise (holes : List Hole) (pos : Nat) (t : Text) :
    (uncovered holes pos t).Pairwise fun a b => a.stop < b.start := by
  induction t generalizing pos with
  | nil => exact .nil
  | cons c t ih =>
    rw [uncovered]
    split
    · exact ih (pos + 1)
    · have hpairwise := ih (pos + 1)
      have hstarts : ∀ g ∈ uncovered holes (pos + 1) t, pos + 1 ≤ g.start := fun g hg =>
        (within_of_mem_uncovered hg).start
      revert hpairwise hstarts
      cases uncovered holes (pos + 1) t with
      | nil => exact fun _ _ => List.pairwise_singleton ..
      | cons g gs =>
        intro hpairwise hstarts
        obtain ⟨hfirst, hrest⟩ := List.pairwise_cons.mp hpairwise
        rw [Fragment.attach]
        split
        · rename_i hg
          refine .cons (fun b hb => ?_) hrest
          have := hfirst b hb
          have := eq_of_beq hg
          simp only [Fragment.stop, List.length_cons] at *
          omega
        · rename_i hg
          refine .cons (fun b hb => ?_) hpairwise
          have hlater : g.start ≤ b.start := by
            rcases List.mem_cons.mp hb with rfl | hb
            · exact Nat.le_refl _
            · exact (Nat.le_add_right ..).trans (hfirst b hb).le
          have hne : g.start ≠ pos + 1 := by simpa using hg
          have := hstarts g List.mem_cons_self
          simp only [Fragment.stop, List.length_singleton]
          omega

theorem numberLines_pairwise (pos : Nat) (ts : List Text) :
    (numberLines pos ts).Pairwise (fun a b => a.stop < b.start) ∧
      ∀ g ∈ numberLines pos ts, pos ≤ g.start := by
  induction ts generalizing pos with
  | nil => exact ⟨.nil, by simp [numberLines]⟩
  | cons t ts ih =>
    obtain ⟨hpairwise, hstarts⟩ := ih (pos + t.length + 1)
    refine ⟨.cons hstarts hpairwise, List.forall_mem_cons.mpr ⟨Nat.le_refl _, fun g hg => ?_⟩⟩
    have := hstarts g hg
    omega

/-- Lines outside holes stand in order and apart. -/
theorem linesExcluding_pairwise (f : Fragment) (holes : List Hole) :
    (linesExcluding f holes).Pairwise fun a b => a.stop < b.start := by
  rw [linesExcluding, List.pairwise_flatMap]
  constructor
  · intro run _
    rw [linesFrom_eq_numberLines]
    exact (numberLines_pairwise ..).1
  · refine (uncovered_pairwise holes f.start f.chars).imp fun {a b} hab x hx y hy => ?_
    have hstop := (within_of_mem_linesFrom hx).stop
    have hstart := (within_of_mem_linesFrom hy).start
    exact (hstop.trans_lt hab).trans_le hstart

/-! ## Positions -/

theorem exists_mem_linesFrom (hc : c ≠ '\n') (pos : Nat) (s t : Text) :
    ∃ line ∈ linesFrom pos (s ++ c :: t), line.Covers (pos + s.length) := by
  induction s generalizing pos with
  | nil =>
    obtain ⟨w, rest, hw⟩ := head_linesFrom (pos + 1) t
    refine ⟨⟨pos, c :: w⟩, ?_, Nat.le_refl _, ?_⟩
    · rw [List.nil_append, linesFrom, if_neg (by simpa using hc), hw]
      exact List.mem_cons_self
    · simp [Fragment.stop]
  | cons d s ih =>
    obtain ⟨line, hline, hcovers⟩ := ih (pos + 1)
    obtain ⟨w, rest, hw⟩ := head_linesFrom (pos + 1) (s ++ c :: t)
    rw [add_length_cons, List.cons_append, linesFrom]
    split
    · exact ⟨line, List.mem_cons_of_mem _ hline, hcovers⟩
    · rw [hw] at hline ⊢
      rcases List.mem_cons.mp hline with rfl | hline
      · refine ⟨⟨pos, d :: w⟩, List.mem_cons_self, ?_, ?_⟩
        · have := hcovers.1
          simp only at *
          omega
        · have := hcovers.2
          simp only [Fragment.stop, List.length_cons] at *
          omega
      · exact ⟨line, List.mem_cons_of_mem _ hline, hcovers⟩

/-- A position outside the holes is in a line. -/
theorem exists_covers_linesExcluding (hp : f.Covers p) (hfree : holes.any (·.covers p) = false)
    (hbreak : f.chars[p - f.start]? ≠ some '\n') :
    ∃ line ∈ linesExcluding f holes, line.Covers p := by
  obtain ⟨n, rfl⟩ := Nat.exists_eq_add_of_le hp.1
  have hn : n < f.chars.length := Nat.lt_of_add_lt_add_left hp.2
  rw [Nat.add_sub_cancel_left, List.getElem?_eq_getElem hn, Ne, Option.some_inj] at hbreak
  have hlength : (f.chars.take n).length = n := List.length_take_of_le hn.le
  obtain ⟨run, hrun, s, w, hchars, -, hstart⟩ := exists_mem_uncovered (u := f.chars.take n)
    (c := f.chars[n]) (hlength.symm ▸ hfree) (f.chars.drop (n + 1))
  rw [← List.drop_eq_getElem_cons hn, List.take_append_drop] at hrun
  obtain ⟨line, hline, hcovers⟩ := exists_mem_linesFrom hbreak run.start s w
  refine ⟨line, List.mem_flatMap.mpr ⟨run, hrun, hchars ▸ hline⟩, ?_⟩
  rwa [hstart, hlength] at hcovers

theorem eq_of_covers_of_pairwise {lines : List Fragment}
    (hlines : lines.Pairwise fun a b => a.stop < b.start) (hf : f ∈ lines) (hg : g ∈ lines)
    (hfp : f.Covers p) (hgp : g.Covers p) : f = g := by
  have happart : lines.Pairwise fun a b => a.Covers p ∧ b.Covers p → a = b := by
    refine hlines.imp fun hab ⟨ha, hb⟩ => ?_
    have := ha.2
    have := hb.1
    omega
  have hsymm : Std.Symm fun a b : Fragment => a.Covers p ∧ b.Covers p → a = b :=
    ⟨fun _ _ h hba => (h hba.symm).symm⟩
  exact happart.forall_of_forall (fun _ _ _ => rfl) hf hg ⟨hfp, hgp⟩

theorem Fragment.StandsIn.getElem? (hf : f.StandsIn t) (hp : f.Covers p) :
    f.chars[p - f.start]? = t[p]? := by
  obtain ⟨front, after, rfl, hstart⟩ := hf
  obtain ⟨n, rfl⟩ := Nat.exists_eq_add_of_le hp.1
  have hn : n < f.chars.length := Nat.lt_of_add_lt_add_left hp.2
  rw [Nat.add_sub_cancel_left, hstart, List.getElem?_append_right (Nat.le_add_right ..),
    Nat.add_sub_cancel_left, List.getElem?_append_left hn]

/-- The lines are in the range, in the order of their starts, and hold all that is left of it. Each
of them is a piece of the text without a line break, no hole covers any of it, and every position of
the range outside the holes is in exactly one of them, if no line break stands there. -/
structure Partitions (t : Text) (f : Fragment) (holes : List Hole) (lines : List Fragment) :
    Prop where
  starts : lines.Pairwise fun a b => a.start < b.start
  within : ∀ line ∈ lines, line.Within f.start f.stop
  stands : ∀ line ∈ lines, line.StandsIn t
  one_line : ∀ line ∈ lines, '\n' ∉ line.chars
  outside : ∀ line ∈ lines, ∀ p, line.Covers p → ∀ h ∈ holes, h.covers p = false
  exactly_one : ∀ p, f.Covers p → (∀ h ∈ holes, h.covers p = false) → t[p]? ≠ some '\n' →
    ∃! line, line ∈ lines ∧ line.Covers p

theorem partitions_linesExcluding (hf : f.StandsIn t) (holes : List Hole) :
    Partitions t f holes (linesExcluding f holes) where
  starts := (linesExcluding_pairwise f holes).imp fun hab => (Nat.le_add_right ..).trans_lt hab
  within _ := within_of_mem_linesExcluding
  stands _ := hf.line
  one_line line hline := by
    obtain ⟨-, -, -, -, hbreak, -⟩ := mem_linesExcluding hline
    exact hbreak
  outside line hline p hp := by
    obtain ⟨-, -, -, -, -, hfree⟩ := mem_linesExcluding hline
    simpa using hfree p hp
  exactly_one p hp hfree hbreak := by
    rw [← hf.getElem? hp] at hbreak
    obtain ⟨line, hline, hcovers⟩ := exists_covers_linesExcluding hp (by simpa using hfree) hbreak
    exact ⟨line, ⟨hline, hcovers⟩, fun other h =>
      eq_of_covers_of_pairwise (linesExcluding_pairwise f holes) h.1 hline h.2 hcovers⟩

/-! ## Bytes -/

/-- The hole is bounded by characters of the text, but for an end that is not in the range. -/
structure Hole.CutFrom (text : Text) (f : Fragment) (h : Hole) : Prop where
  start : IsBoundary text h.start
  stop : h.stop < f.stop → IsBoundary text h.stop

theorem IsBoundary.exists_byteOffset {n : Nat} (h : IsBoundary text n) :
    ∃ q, n = byteOffset text q := by
  obtain ⟨front, after, rfl, hn⟩ := h
  exact ⟨front.length, by rw [hn, Text.byteOffset_append]⟩

theorem Fragment.CutFrom.exists_standsIn (hf : f.CutFrom text) :
    ∃ g : Fragment, g.StandsIn text ∧ f = g.inBytes text := by
  obtain ⟨front, piece, after, htext, hstart, hchars⟩ := hf
  refine ⟨⟨front.length, piece⟩, ⟨front, after, htext, rfl⟩, ?_⟩
  obtain ⟨start, chars⟩ := f
  simp only at hstart hchars
  rw [hstart, hchars, Fragment.inBytes, htext, Text.byteOffset_append]

/-- In a range of bytes, holes that are bounded by characters are holes of characters. -/
theorem exists_holes_inBytes (hg : g.StandsIn text)
    (hholes : ∀ h ∈ holes, h.CutFrom text (g.inBytes text)) :
    ∃ holes' : List Hole, ∀ p, (g.inBytes text).Covers p →
      holes.any (·.covers p) = (holes'.map (·.inBytes text)).any (·.covers p) := by
  induction holes with
  | nil => exact ⟨[], fun _ _ => rfl⟩
  | cons h holes ih =>
    obtain ⟨hh, hholes⟩ := List.forall_mem_cons.mp hholes
    obtain ⟨holes', hrest⟩ := ih hholes
    obtain ⟨a, ha⟩ := hh.start.exists_byteOffset
    by_cases hstop : h.stop < (g.inBytes text).stop
    · obtain ⟨b, hb⟩ := (hh.stop hstop).exists_byteOffset
      refine ⟨⟨a, b⟩ :: holes', fun p hp => ?_⟩
      rw [List.any_cons, List.map_cons, List.any_cons, hrest p hp, Hole.inBytes, ← ha, ← hb]
    · -- of a hole that runs past the range, the end of the range is all that matters
      refine ⟨⟨a, g.stop⟩ :: holes', fun p hp => ?_⟩
      have hcovers : h.covers p = (Hole.inBytes text ⟨a, g.stop⟩).covers p := by
        have hstop' := Fragment.stop_inBytes hg.isPrefix
        have := hp.2
        rw [Bool.eq_iff_iff, Hole.covers_iff, Hole.covers_iff, Hole.start_inBytes,
          Hole.stop_inBytes, ← ha, ← hstop']
        omega
      rw [List.any_cons, List.map_cons, List.any_cons, hrest p hp, hcovers]

theorem linesExcluding_cutFrom (hf : f.CutFrom text) (hholes : ∀ h ∈ holes, h.CutFrom text f)
    (hline : line ∈ linesExcluding f holes) : line.CutFrom text := by
  obtain ⟨g, hg, rfl⟩ := hf.exists_standsIn
  obtain ⟨holes', hholes'⟩ := exists_holes_inBytes hg hholes
  rw [linesExcluding_ext hholes'] at hline
  change line ∈ linesExcluding ⟨byteOffset text g.start, octets g.chars⟩ _ at hline
  rw [linesExcluding_octets holes' hg.isPrefix] at hline
  obtain ⟨l, hl, rfl⟩ := List.mem_map.mp hline
  exact (hg.line (f := ⟨g.start, g.chars⟩) hl).cutFrom

/-- The lines of a range outside holes are those of the gaps between the holes, and they are what is
left of the range. Of the bytes of a text they are cut at characters, where the range and the holes
are. -/
theorem linesExcluding_partitions (hf : f.StandsIn t) (hholes : ∀ h ∈ holes,
    h.start < h.stop ∧ f.start ≤ h.start ∧ h.start ≤ f.stop) :
    linesExcluding f holes = gapLines f holes ∧ Partitions t f holes (linesExcluding f holes) ∧
      ∀ text, t = octets text → f.CutFrom text → (∀ h ∈ holes, h.CutFrom text f) →
        ∀ line ∈ linesExcluding f holes, line.CutFrom text := by
  refine ⟨linesExcluding_eq_gapLines hholes, partitions_linesExcluding hf holes, ?_⟩
  rintro text - hcut hholes line hline
  exact linesExcluding_cutFrom hcut hholes hline

/-- A text with a character of two bytes. -/
def accentText : Text := "é a\nb cc\n\nd".toList

/-- Holes in no order, of which two overlap and one runs past the end. -/
def crossingHoles : List Hole := [⟨10, 40⟩, ⟨7, 9⟩, ⟨5, 8⟩]

theorem linesExcluding_partitions_crossingHoles :
    (∀ h ∈ crossingHoles, h.start < h.stop ∧ 0 ≤ h.start ∧ h.start ≤ 12) ∧
      (linesExcluding ⟨0, octets accentText⟩ crossingHoles).map (·.start) = [0, 5, 9, 10] ∧
      linesExcluding ⟨0, octets accentText⟩ crossingHoles =
        gapLines ⟨0, octets accentText⟩ crossingHoles ∧
      Partitions (octets accentText) ⟨0, octets accentText⟩ crossingHoles
        (linesExcluding ⟨0, octets accentText⟩ crossingHoles) ∧
      ∀ line ∈ linesExcluding ⟨0, octets accentText⟩ crossingHoles, line.CutFrom accentText := by
  have hlength : (octets accentText).length = 12 := by decide +kernel
  have hholes : ∀ h ∈ crossingHoles, h.start < h.stop ∧ 0 ≤ h.start ∧ h.start ≤ 12 := by decide
  have hcut : ∀ h ∈ crossingHoles, h.CutFrom accentText ⟨0, octets accentText⟩ := by
    have hboundary {n q : Nat} (h : byteOffset accentText q = n) : IsBoundary accentText n :=
      h ▸ isBoundary_byteOffset accentText q
    intro h hh
    simp only [crossingHoles, List.mem_cons, List.not_mem_nil, or_false] at hh
    rcases hh with rfl | rfl | rfl
    · refine ⟨hboundary (q := 9) (by decide +kernel), fun h => ?_⟩
      simp [Fragment.stop, hlength] at h
    · refine ⟨hboundary (q := 6) (by decide +kernel), fun _ => ?_⟩
      exact hboundary (q := 8) (by decide +kernel)
    · refine ⟨hboundary (q := 4) (by decide +kernel), fun _ => ?_⟩
      exact hboundary (q := 7) (by decide +kernel)
  obtain ⟨hgaps, hpartitions, hlines⟩ := linesExcluding_partitions
    (f := ⟨0, octets accentText⟩) (t := octets accentText) ⟨[], [], by simp, rfl⟩
    (by simpa [Fragment.stop, hlength] using hholes)
  refine ⟨hholes, by decide +kernel, hgaps, hpartitions, hlines accentText rfl ?_ hcut⟩
  exact ⟨[], accentText, [], by simp, rfl, rfl⟩

end PageRules.RuleText
