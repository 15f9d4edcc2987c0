import Mathlib
import PageRules.Proofs.RuleText.Bracket
import PageRules.Proofs.RuleText.Option

/-!
# Lines of written bodies

Cutting a hole out of a body leaves what stands before and after it (`chars_linesExcluding_hole`),
and the definition of a field falls apart into its selector and its options (`splitField_write`).
-/

namespace PageRules.RuleText

/-! ## Pieces outside holes -/

variable {s t : Text}

theorem uncovered_append_of_covered {holes : List Hole} (pos : Nat)
    (h : ∀ i < t.length, holes.any (·.covers (pos + i)) = true) (s : Text) :
    uncovered holes pos (t ++ s) = uncovered holes (pos + t.length) s := by
  induction t generalizing pos with
  | nil => rfl
  | cons c t ih =>
    have hc : holes.any (·.covers pos) = true := h 0 (by simp)
    have ht : ∀ i < t.length, holes.any (·.covers (pos + 1 + i)) = true := by
      intro i hi
      rw [Nat.add_assoc, Nat.add_comm 1]
      exact h (i + 1) (by simpa using hi)
    rw [List.cons_append, uncovered, if_pos hc, ih _ ht, List.length_cons, Nat.add_assoc,
      Nat.add_comm 1]

theorem uncovered_append_of_free (holes : List Hole) (pos : Nat) (ht : t ≠ [])
    (h : ∀ i < t.length, holes.any (·.covers (pos + i)) = false)
    (hs : ∀ f ∈ (uncovered holes (pos + t.length) s).head?, f.start ≠ pos + t.length) :
    uncovered holes pos (t ++ s) = ⟨pos, t⟩ :: uncovered holes (pos + t.length) s := by
  induction t generalizing pos with
  | nil => exact absurd rfl ht
  | cons c t ih =>
    have hc : holes.any (·.covers pos) = false := h 0 (by simp)
    have hlen : pos + (c :: t).length = pos + 1 + t.length := by
      rw [List.length_cons]
      omega
    rw [hlen] at hs ⊢
    rw [List.cons_append, uncovered, hc, if_neg Bool.false_ne_true]
    by_cases hn : t = []
    · subst hn
      rw [List.nil_append]
      cases hu : uncovered holes (pos + 1) s with
      | nil => simp [Fragment.attach]
      | cons f fs =>
        have hf : f.start ≠ pos + 1 := hs f (by simp [hu])
        simp [Fragment.attach, hf]
    · rw [ih _ hn ?_ hs]
      · simp [Fragment.attach]
      · intro i hi
        rw [Nat.add_assoc, Nat.add_comm 1]
        exact h (i + 1) (by simpa using hi)

theorem chars_linesFrom (pos : Nat) (t : Text) :
    (linesFrom pos t).map (·.chars) = Text.lines t := by
  unfold Text.lines
  induction t generalizing pos with
  | nil => rfl
  | cons c t ih =>
    rw [linesFrom, Text.splitOn]
    split
    · rw [List.map_cons, ih]
    · rw [← ih (pos + 1)]
      cases linesFrom (pos + 1) t <;> rfl

theorem lines_unlines {lines : List Text} (h : ∀ t ∈ lines, '\n' ∉ t) (s : Text) :
    Text.lines (Text.unlines lines ++ s) = lines ++ Text.lines s := by
  induction lines with
  | nil => rfl
  | cons t lines ih =>
    have ht := Text.beq_eq_false_of_mem (h t List.mem_cons_self)
    rw [Text.unlines_cons, List.append_assoc, List.cons_append, Text.lines,
      Text.splitOn_append ht (beq_self_eq_true _)]
    exact congrArg _ (ih fun u hu => h u (List.mem_cons_of_mem _ hu))

/-- Without a hole all lines are left. -/
theorem chars_linesExcluding_nil {f : Fragment} (h : f.chars ≠ []) :
    (linesExcluding f []).map (·.chars) = Text.lines f.chars := by
  have hu := uncovered_append_of_free [] f.start (s := []) h
    (fun _ _ => rfl) (by simp [uncovered])
  rw [List.append_nil] at hu
  rw [linesExcluding, hu]
  simp [uncovered, chars_linesFrom]

/-- A hole leaves the lines before and after it. -/
theorem chars_linesExcluding_hole {f : Fragment} {before inside after : Text}
    (h : f.chars = before ++ (inside ++ after)) (hb : before ≠ []) (hi : inside ≠ [])
    (ha : after ≠ []) :
    (linesExcluding f [⟨f.start + before.length, f.start + before.length + inside.length⟩]).map
      (·.chars) = Text.lines before ++ Text.lines after := by
  have hpos : 0 < inside.length := List.length_pos_iff.mpr hi
  have hafter := uncovered_append_of_free
    [⟨f.start + before.length, f.start + before.length + inside.length⟩]
    (f.start + before.length + inside.length) (s := []) ha (by simp [Hole.covers])
    (by simp [uncovered])
  have hinside : uncovered [⟨f.start + before.length, f.start + before.length + inside.length⟩]
      (f.start + before.length) (inside ++ after) = uncovered
        [⟨f.start + before.length, f.start + before.length + inside.length⟩]
        (f.start + before.length + inside.length) after :=
    uncovered_append_of_covered _ (by simp [Hole.covers]) after
  rw [List.append_nil] at hafter
  have hbefore := uncovered_append_of_free
    [⟨f.start + before.length, f.start + before.length + inside.length⟩] f.start
    (s := inside ++ after) hb (by simp [Hole.covers]; omega) (by simp [hinside, hafter]; omega)
  rw [linesExcluding, h, hbefore, hinside, hafter]
  simp [uncovered, chars_linesFrom]

/-! ## Selectors and their options -/

theorem optionGroups_eq (t : Text) : optionGroups t =
    ((Text.splitOnce (· == '[') t).bind fun p => Text.splitOnce (· == ']') p.2).elim []
      fun p => Text.trim p.1 :: optionGroups p.2 := by
  rw [optionGroups]
  split
  · rename_i h
    rw [h]
    rfl
  · rename_i h
    rw [h, Option.bind_some]
    split
    · rename_i h
      rw [h]
      rfl
    · rename_i h
      rw [h]
      rfl

theorem optionGroups_of_not_mem (h : '[' ∉ t) : optionGroups t = [] := by
  rw [optionGroups_eq, Text.splitOnce_eq_none (Text.beq_eq_false_of_mem h)]
  rfl

/-- What stands in front of the first opening bracket is passed over. -/
theorem optionGroups_prepend (h : '[' ∉ s) (t : Text) : optionGroups (s ++ t) = optionGroups t := by
  rw [optionGroups_eq, optionGroups_eq t, Text.splitOnce_prepend (Text.beq_eq_false_of_mem h)]
  cases Text.splitOnce (· == '[') t <;> rfl

theorem optionGroups_cons {inner : Text} (h : ']' ∉ inner) (t : Text) :
    optionGroups ('[' :: inner ++ ']' :: t) = Text.trim inner :: optionGroups t := by
  have hopen : Text.splitOnce (· == '[') ('[' :: inner ++ ']' :: t) =
      some ([], inner ++ ']' :: t) :=
    Text.splitOnce_append (List.forall_mem_nil _) (beq_self_eq_true '[') _
  rw [optionGroups_eq, hopen, Option.bind_some,
    Text.splitOnce_append (Text.beq_eq_false_of_mem h) (beq_self_eq_true ']')]
  rfl

theorem optionGroups_group {inner : Text} (hs : '[' ∉ s) (hi : ']' ∉ inner) :
    optionGroups (s ++ '[' :: inner ++ [']']) = [Text.trim inner] := by
  rw [List.append_assoc, optionGroups_prepend hs, optionGroups_cons hi,
    optionGroups_of_not_mem List.not_mem_nil]

theorem optionGroups_write {o : OptionSet} (h : o.Writable) : optionGroups o.write = o.groups := by
  unfold OptionSet.write OptionSet.groups
  split
  · rw [optionGroups]
    rfl
  · have hg := optionGroups_group (s := [' ']) (by simp) (h.free_inside.not_mem ']' (by simp))
    rw [h.trimmed_inside] at hg
    exact hg

theorem beforeGroup?_append {inner : Text} (ho : '[' ∉ inner) (hc : ']' ∉ inner) (s : Text) :
    beforeGroup? 0 (inner ++ '[' :: s) = some s :=
  beforeGroup?_eq_some_iff.mpr ⟨inner, rfl, closes_of_not_mem ho hc⟩

/-- In a text read from its end, what follows an opening bracket is no white space. -/
def TouchesBack (t : Text) : Prop :=
  ∀ s before, t = s ++ '[' :: before → ∃ c ∈ before.head?, Text.isSpace c = false

theorem TouchesBack.cons {c : Char} (h : TouchesBack t)
    (hc : c = '[' → ∃ d ∈ t.head?, Text.isSpace d = false) : TouchesBack (c :: t) := by
  intro s before heq
  cases s with
  | nil =>
    cases heq
    exact hc rfl
  | cons d s =>
    rw [List.cons_append] at heq
    cases heq
    exact h s before rfl

theorem touchesBack_of_not_mem (h : '[' ∉ t) : TouchesBack t := by
  rintro s before rfl
  exact absurd (by simp) h

theorem touchesBack_reverse {touched : Bool} (ht : bracketsTouch touched t = true)
    (hs : TouchesBack s) (h : touched = true → ∃ c ∈ s.head?, Text.isSpace c = false) :
    TouchesBack (t.reverse ++ s) := by
  induction t generalizing touched s with
  | nil => exact hs
  | cons c t ih =>
    rw [bracketsTouch, Bool.and_eq_true] at ht
    rw [List.reverse_cons, List.append_assoc, List.singleton_append]
    refine ih ht.2 (hs.cons ?_) ?_
    · rintro rfl
      exact h (by simpa using ht.1)
    · intro hc
      exact ⟨c, rfl, by simpa using hc⟩

/-- No group is taken off a text whose brackets all touch what stands before them. -/
theorem peelGroups_of_touchesBack {best : Text} (h : TouchesBack t) : peelGroups best t = best := by
  fun_induction peelGroups best t with
  | case1 best rest before hb ih =>
    obtain ⟨s, rfl, -⟩ := beforeGroup?_eq_some_iff.mp hb
    obtain ⟨c, hc, hs⟩ := h (']' :: s) before rfl
    obtain ⟨before, rfl⟩ := List.head?_eq_some_iff.mp hc
    have hapart : standsApart (c :: before) = false := hs
    have hdrop : (c :: before).dropWhile Text.isSpace = c :: before :=
      List.dropWhile_cons_of_neg (by simp [hs])
    simp only [hapart, hdrop, Bool.false_eq_true, ↓reduceIte, ↓reduceDIte] at ih ⊢
    refine ih fun u v huv => h (']' :: s ++ '[' :: u) v ?_
    rw [huv]
    simp
  | case2 => rfl
  | case3 => rfl

/-- A group that stands apart is taken off, and no bracket of the text before it. -/
theorem peelGroups_group {inner : Text} (ho : '[' ∉ inner) (hc : ']' ∉ inner) (best : Text)
    (ht : TouchesBack t) (hs : ∀ c ∈ t.head?, Text.isSpace c = false) :
    peelGroups best (']' :: inner ++ '[' :: ' ' :: t) = ' ' :: t := by
  have hb : beforeGroup? 0 (inner ++ '[' :: ' ' :: t) = some (' ' :: t) :=
    beforeGroup?_append ho hc _
  have hdrop : (' ' :: t).dropWhile Text.isSpace = t := by
    rw [List.dropWhile_cons_of_pos rfl, List.dropWhile_eq_self_iff]
    intro hl
    cases t with
    | nil => cases hl
    | cons c t => simpa using hs c rfl
  rw [List.cons_append, peelGroups]
  split
  · rename_i before h
    rw [hb] at h
    cases h
    rw [hdrop]
    exact peelGroups_of_touchesBack ht
  · rename_i h
    rw [hb] at h
    cases h

theorem splitField_of_peelGroups (ht : Text.trimEnd t = t)
    (hs : peelGroups t.reverse t.reverse = s.reverse) :
    splitField t = (Text.trim s, optionGroups (t.drop s.length)) := by
  unfold splitField
  dsimp only
  rw [ht, hs, List.reverse_reverse]

section

variable (hn : s ≠ []) (ht : Text.Trimmed s) (hs : bracketsTouch false s = true)
include hn ht hs

theorem splitField_selector : splitField (' ' :: s) = (s, []) := by
  have hend : Text.trimEnd (' ' :: s) = ' ' :: s := by
    rw [Text.trimEnd_eq_self_iff, ← List.singleton_append, List.getLast?_append_of_ne_nil _ hn]
    exact (Text.trimmed_iff.mp ht).2
  have hpeel : peelGroups (' ' :: s).reverse (' ' :: s).reverse = (' ' :: s).reverse := by
    refine peelGroups_of_touchesBack ?_
    rw [List.reverse_cons]
    exact touchesBack_reverse hs (touchesBack_of_not_mem (by simp)) (by simp)
  have htrim : Text.trim (' ' :: s) = s := by
    have := Text.trim_append_append (s := [' ']) (u := []) (by simp [Text.isBlank]) ht hn (by simp)
    simpa using this
  rw [splitField_of_peelGroups hend hpeel, List.drop_length, htrim, optionGroups]
  rfl

/-- A group that stands apart from the selector holds options. -/
theorem splitField_group {inner : Text} (ho : '[' ∉ inner) (hc : ']' ∉ inner) :
    splitField ((' ' :: s ++ [' ']) ++ ('[' :: inner ++ [']'])) = (s, [Text.trim inner]) := by
  have hend : Text.trimEnd ((' ' :: s ++ [' ']) ++ ('[' :: inner ++ [']'])) =
      (' ' :: s ++ [' ']) ++ ('[' :: inner ++ [']']) := by
    rw [Text.trimEnd_eq_self_iff, ← List.append_assoc, List.getLast?_concat]
    simp [Text.isBlank]
  have hrev : ((' ' :: s ++ [' ']) ++ ('[' :: inner ++ [']'])).reverse =
      ']' :: inner.reverse ++ '[' :: ' ' :: (s.reverse ++ [' ']) := by simp
  have hpeel : peelGroups ((' ' :: s ++ [' ']) ++ ('[' :: inner ++ [']'])).reverse
      ((' ' :: s ++ [' ']) ++ ('[' :: inner ++ [']'])).reverse = (' ' :: s ++ [' ']).reverse := by
    have hback : TouchesBack (s.reverse ++ [' ']) :=
      touchesBack_reverse hs (touchesBack_of_not_mem (by simp)) (by simp)
    rw [hrev, peelGroups_group (by simpa using ho) (by simpa using hc) _ hback]
    · simp
    · intro c hc
      rw [List.head?_append_of_ne_nil _ (by simpa using hn), List.head?_reverse] at hc
      exact Text.isSpace_eq_false ((Text.trimmed_iff.mp ht).2 c hc)
  have htrim : Text.trim (' ' :: s ++ [' ']) = s :=
    Text.trim_append_append (s := [' ']) (by simp [Text.isBlank]) ht hn (by simp [Text.isBlank])
  rw [splitField_of_peelGroups hend hpeel, List.drop_left, htrim]
  exact congrArg _ (optionGroups_group (s := []) (by simp) hc)

/-- A selector and its options are told apart. -/
theorem splitField_write {o : OptionSet} (ho : o.Writable) :
    splitField (' ' :: s ++ o.write) = (s, o.groups) := by
  unfold OptionSet.write OptionSet.groups
  split
  · rw [List.append_nil, splitField_selector hn ht hs]
  · have hsplit : ' ' :: s ++ (' ' :: '[' :: o.inside ++ [']']) =
        (' ' :: s ++ [' ']) ++ ('[' :: o.inside ++ [']']) := by simp
    rw [hsplit, splitField_group hn ht hs (ho.free_inside.not_mem _ (by simp))
      (ho.free_inside.not_mem _ (by simp)), ho.trimmed_inside]

end

end PageRules.RuleText
