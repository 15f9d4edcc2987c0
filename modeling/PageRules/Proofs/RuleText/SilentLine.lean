import Mathlib
import PageRules.Proofs.RuleText.Line
import PageRules.Proofs.RuleText.Origin
import PageRules.Proofs.RuleText.Resume
import PageRules.Proofs.RuleText.Shift

/-!
# Lines that say nothing

The lines of a body that say something are those on either side of a line break in it, whether or
not a hole covers the line break (`speaking_append`). Lines that say nothing leave a template as it
is (`addLines_speaking`).
-/

namespace PageRules.RuleText

variable {t v w : Text} {holes : List Hole} {pos : Nat}

/-- The line is not blank and does not begin with `#`. -/
def speaks (line : Fragment) : Bool := ¬ (line.text = [] ∨ line.text.head? = some '#')

/-- The lines outside the holes that say something. -/
def speaking (f : Fragment) (holes : List Hole) : List Fragment :=
  (linesExcluding f holes).filter speaks

theorem addLine_of_not_speaks {line : Fragment} (h : speaks line = false) (t : Template) :
    addLine t line = pure t := by
  unfold addLine
  dsimp only
  rw [if_pos (Decidable.not_not.mp (of_decide_eq_false h))]

theorem addLines_speaking (t : Template) (f : Fragment) (holes : List Hole) :
    addLines t (speaking f holes) = addLines t (linesExcluding f holes) := by
  unfold speaking
  generalize linesExcluding f holes = lines
  induction lines generalizing t with
  | nil => rfl
  | cons line lines ih =>
    cases h : speaks line with
    | true =>
      rw [List.filter_cons_of_pos h, addLines, List.foldlM_cons, addLines, List.foldlM_cons]
      exact congrArg (_ >>= ·) (funext ih)
    | false =>
      rw [List.filter_cons_of_neg (by simp [h]), addLines, addLines, List.foldlM_cons,
        addLine_of_not_speaks h, pure_bind]
      exact ih t

theorem speaks_nil (pos : Nat) : speaks ⟨pos, []⟩ = false := rfl

/-! ## Lines from their end -/

/-- The lines with a character put in front of them. -/
def attachLine (pos : Nat) (c : Char) (lines : List Fragment) : List Fragment :=
  if c = '\n' then
    ⟨pos, []⟩ :: if (∃ f ∈ lines.head?, f.start = pos + 1) then lines else ⟨pos + 1, []⟩ :: lines
  else Fragment.attach pos c lines

theorem linesExcluding_covered {c : Char} (h : holes.any (·.covers pos) = true) (t : Text) :
    linesExcluding ⟨pos, c :: t⟩ holes = linesExcluding ⟨pos + 1, t⟩ holes := by
  rw [linesExcluding, uncovered, if_pos h]
  rfl

theorem linesExcluding_cons {c : Char} (h : holes.any (·.covers pos) = false) (t : Text) :
    linesExcluding ⟨pos, c :: t⟩ holes =
      attachLine pos c (linesExcluding ⟨pos + 1, t⟩ holes) := by
  rw [linesExcluding, linesExcluding, uncovered, if_neg (by simp [h])]
  dsimp only
  cases uncovered holes (pos + 1) t with
  | nil =>
    by_cases hc : c = '\n'
    · subst hc
      rfl
    · simp [Fragment.attach, attachLine, linesFrom, hc]
  | cons f fs =>
    obtain ⟨start, chars⟩ := f
    obtain ⟨head, rest, hlines⟩ := head_linesFrom start chars
    by_cases hstart : start = pos + 1
    · subst hstart
      by_cases hc : c = '\n'
      · simp [Fragment.attach, attachLine, linesFrom, hc, hlines]
      · simp [Fragment.attach, attachLine, linesFrom, hc, hlines]
    · by_cases hc : c = '\n'
      · simp [Fragment.attach, attachLine, linesFrom, hc, hlines, hstart]
      · simp [Fragment.attach, attachLine, linesFrom, hc, hlines, hstart]

/-- A character in front of lines comes into the first of them, which is empty where all in front of
it are. -/
theorem exists_attachLine_append (c : Char) (lines : List Fragment) {more : List Fragment}
    (h : ∀ f ∈ more, f.start ≤ pos + 1 → f.chars = []) :
    ∃ rest, attachLine pos c (lines ++ more) = attachLine pos c lines ++ rest ∧
      rest.filter speaks = more.filter speaks ∧ rest ⊆ more := by
  cases lines with
  | cons f lines =>
    refine ⟨more, ?_, rfl, List.Subset.refl _⟩
    by_cases hc : c = '\n'
    · by_cases hf : f.start = pos + 1 <;> simp [attachLine, hc, hf]
    · by_cases hf : f.start = pos + 1 <;> simp [attachLine, Fragment.attach, hc, hf]
  | nil =>
    cases more with
    | nil => exact ⟨[], by simp, rfl, List.Subset.refl _⟩
    | cons g more =>
      obtain ⟨start, chars⟩ := g
      by_cases hstart : start = pos + 1
      · have hempty : chars = [] := h _ List.mem_cons_self (by simp [hstart])
        subst hstart hempty
        refine ⟨more, ?_, by simp [speaks_nil], List.subset_cons_self ..⟩
        by_cases hc : c = '\n' <;> simp [attachLine, Fragment.attach, hc]
      · refine ⟨⟨start, chars⟩ :: more, ?_, rfl, List.Subset.refl _⟩
        by_cases hc : c = '\n' <;> simp [attachLine, Fragment.attach, hc, hstart]

theorem speaking_break (pos : Nat) (v : Text) :
    speaking ⟨pos, '\n' :: v⟩ holes = speaking ⟨pos + 1, v⟩ holes := by
  rw [speaking]
  cases hcovered : holes.any (·.covers pos) with
  | true => rw [linesExcluding_covered hcovered, speaking]
  | false =>
    rw [linesExcluding_cons hcovered, attachLine, if_pos rfl,
      List.filter_cons_of_neg (by simp [speaks_nil])]
    split
    · rfl
    · rw [List.filter_cons_of_neg (by simp [speaks_nil])]
      rfl

theorem chars_of_mem_break {f : Fragment} (h : f ∈ linesExcluding ⟨pos, '\n' :: v⟩ holes)
    (hstart : f.start ≤ pos) : f.chars = [] := by
  have hlater {f : Fragment} (h : f ∈ linesExcluding ⟨pos + 1, v⟩ holes) : pos < f.start :=
    (within_of_mem_linesExcluding h).start
  cases hcovered : holes.any (·.covers pos) with
  | true =>
    rw [linesExcluding_covered hcovered] at h
    exact absurd (hlater h) (by omega)
  | false =>
    rw [linesExcluding_cons hcovered, attachLine, if_pos rfl] at h
    rcases List.mem_cons.mp h with rfl | h
    · rfl
    · split at h
      · exact absurd (hlater h) (by omega)
      · rcases List.mem_cons.mp h with rfl | h
        · rfl
        · exact absurd (hlater h) (by omega)

/-- A line break parts the lines in front of it from those behind it, but for empty lines. -/
theorem exists_linesExcluding_append (holes : List Hole) (pos : Nat) (w v : Text) :
    ∃ rest, linesExcluding ⟨pos, w ++ '\n' :: v⟩ holes = linesExcluding ⟨pos, w⟩ holes ++ rest ∧
      rest.filter speaks = speaking ⟨pos + w.length + 1, v⟩ holes ∧
      ∀ f ∈ rest, f.start ≤ pos + w.length → f.chars = [] := by
  induction w generalizing pos with
  | nil => exact ⟨_, rfl, speaking_break pos v, fun f => chars_of_mem_break⟩
  | cons c w ih =>
    obtain ⟨rest, hlines, hrest, hempty⟩ := ih (pos + 1)
    rw [add_length_cons]
    cases hcovered : holes.any (·.covers pos) with
    | true =>
      refine ⟨rest, ?_, hrest, fun f hf => hempty f hf⟩
      rw [List.cons_append, linesExcluding_covered hcovered, linesExcluding_covered hcovered,
        hlines]
    | false =>
      have hfirst : ∀ f ∈ rest, f.start ≤ pos + 1 → f.chars = [] := fun f hf hstart =>
        hempty f hf (hstart.trans (Nat.le_add_right ..))
      obtain ⟨more, hmore, hspeaks, hsub⟩ :=
        exists_attachLine_append c (linesExcluding ⟨pos + 1, w⟩ holes) hfirst
      refine ⟨more, ?_, hspeaks.trans hrest, fun f hf => hempty f (hsub hf)⟩
      rw [List.cons_append, linesExcluding_cons hcovered, linesExcluding_cons hcovered, hlines,
        hmore]

theorem speaking_append (holes : List Hole) (pos : Nat) (w v : Text) :
    speaking ⟨pos, w ++ '\n' :: v⟩ holes =
      speaking ⟨pos, w⟩ holes ++ speaking ⟨pos + w.length + 1, v⟩ holes := by
  obtain ⟨rest, hlines, hrest, -⟩ := exists_linesExcluding_append holes pos w v
  rw [speaking, hlines, List.filter_append, hrest]
  rfl

/-! ## Single lines -/

theorem linesFrom_of_not_mem (h : '\n' ∉ t) (pos : Nat) : linesFrom pos t = [⟨pos, t⟩] := by
  induction t generalizing pos with
  | nil => rfl
  | cons c t ih =>
    have hc : ¬ (c == '\n') = true := by simpa using (List.ne_of_not_mem_cons h).symm
    rw [linesFrom, if_neg hc, ih (List.not_mem_of_not_mem_cons h)]

/-- A line that stands all in holes, or all outside, is passed over where it says nothing. -/
theorem speaking_line {line : Text} (hbreak : '\n' ∉ line) (hsilent : speaks ⟨pos, line⟩ = false)
    (hholes : ∀ i < line.length, holes.any (·.covers (pos + i)) = holes.any (·.covers pos)) :
    speaking ⟨pos, line⟩ holes = [] := by
  by_cases hne : line = []
  · subst hne
    rfl
  cases hcovered : holes.any (·.covers pos) with
  | true =>
    have hnone := uncovered_append_of_covered pos (fun i hi => (hholes i hi).trans hcovered) []
    rw [List.append_nil] at hnone
    rw [speaking, linesExcluding, hnone]
    rfl
  | false =>
    have hrun := uncovered_append_of_free holes pos (s := []) hne
      (fun i hi => (hholes i hi).trans hcovered) (by simp [uncovered])
    rw [List.append_nil] at hrun
    have hlines : linesExcluding ⟨pos, line⟩ holes = [⟨pos, line⟩] := by
      rw [linesExcluding, hrun, uncovered, List.flatMap_singleton, linesFrom_of_not_mem hbreak]
    rw [speaking, hlines, List.filter_cons_of_neg (by simp [hsilent]), List.filter_nil]

/-- Lines outside holes that cut out the same, further on. -/
theorem speaking_congr {holes' : List Hole} {n : Nat}
    (h : ∀ i < t.length, holes'.any (·.covers (pos + n + i)) = holes.any (·.covers (pos + i))) :
    speaking ⟨pos + n, t⟩ holes' = (speaking ⟨pos, t⟩ holes).map (·.shift n) := by
  have hlines : linesExcluding ⟨pos + n, t⟩ holes' = (linesExcluding ⟨pos, t⟩ holes).map _ :=
    linesExcluding_congr (f := ⟨pos, t⟩) h
  rw [speaking, speaking, hlines, List.filter_map]
  rfl

end PageRules.RuleText
