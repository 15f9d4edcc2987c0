import Mathlib
import PageRules.Proofs.Text.Trim

/-!
# Splitting undoes joining

Texts without a separator come back from the text that joins them, and joining undoes splitting.
-/

namespace PageRules.Text

variable {p : Char → Bool} {d : Char} {s t : Text} {ts : List Text}

theorem beq_eq_false_of_mem (h : d ∉ t) : ∀ c ∈ t, (c == d) = false := by
  intro c hc
  rw [beq_eq_false_iff_ne]
  rintro rfl
  exact h hc

/-- A text at the front that does not hold the character stands in front of it as a whole. -/
theorem exists_append_of_not_mem {u v : Text} (h : s ++ t = u ++ d :: v) (hd : d ∉ s) :
    ∃ w, u = s ++ w ∧ t = w ++ d :: v := by
  rcases List.append_eq_append_iff.mp h with ⟨w, hu, ht⟩ | ⟨w, hs, hv⟩
  · exact ⟨w, hu, ht⟩
  · cases w with
    | nil => exact ⟨[], by simpa using hs.symm, hv.symm⟩
    | cons c w =>
      cases hv
      exact absurd (hs ▸ List.mem_append_right u List.mem_cons_self) hd

/-- A text is split at its first separator. -/
theorem splitOnce_append (ht : ∀ c ∈ t, p c = false) (hd : p d = true) (s : Text) :
    splitOnce p (t ++ d :: s) = some (t, s) := by
  induction t with
  | nil => simp [splitOnce, hd]
  | cons c t ih =>
    rw [List.cons_append, splitOnce, if_neg (by simp [ht c List.mem_cons_self]),
      ih fun c hc => ht c (List.mem_cons_of_mem _ hc)]
    rfl

theorem splitOnce_eq_none (ht : ∀ c ∈ t, p c = false) : splitOnce p t = none := by
  induction t with
  | nil => rfl
  | cons c t ih =>
    rw [splitOnce, if_neg (by simp [ht c List.mem_cons_self]),
      ih fun c hc => ht c (List.mem_cons_of_mem _ hc)]
    rfl

/-- What is split off stands in front of a separator and has none in it. -/
theorem splitOnce_eq_some {before after : Text} (h : splitOnce p t = some (before, after)) :
    ∃ d, p d = true ∧ t = before ++ d :: after ∧ ∀ c ∈ before, p c = false := by
  induction t generalizing before with
  | nil => cases h
  | cons c t ih =>
    unfold splitOnce at h
    split at h
    · rename_i hc
      cases h
      exact ⟨c, hc, rfl, by simp⟩
    · rename_i hc
      obtain ⟨⟨b, a⟩, hb, he⟩ := Option.map_eq_some_iff.mp h
      cases he
      obtain ⟨d, hd, rfl, hall⟩ := ih hb
      exact ⟨d, hd, rfl, List.forall_mem_cons.mpr ⟨by simpa using hc, hall⟩⟩

theorem forall_of_splitOnce_eq_none (h : splitOnce p t = none) : ∀ c ∈ t, p c = false := by
  induction t with
  | nil => simp
  | cons c t ih =>
    unfold splitOnce at h
    split at h
    · cases h
    · rename_i hc
      exact List.forall_mem_cons.mpr ⟨by simpa using hc, ih (Option.map_eq_none_iff.mp h)⟩

/-- The first separator stays the first, however the text goes on. -/
theorem splitOnce_append_of_some {before after : Text} (h : splitOnce p t = some (before, after))
    (s : Text) : splitOnce p (t ++ s) = some (before, after ++ s) := by
  obtain ⟨d, hd, rfl, hb⟩ := splitOnce_eq_some h
  rw [List.append_assoc, List.cons_append, splitOnce_append hb hd]

theorem splitOnce_prepend (hs : ∀ c ∈ s, p c = false) (t : Text) :
    splitOnce p (s ++ t) = (splitOnce p t).map fun (before, after) => (s ++ before, after) := by
  induction s with
  | nil => simp
  | cons c s ih =>
    rw [List.cons_append, splitOnce, if_neg (by simp [hs c List.mem_cons_self]),
      ih fun d hd => hs d (List.mem_cons_of_mem _ hd), Option.map_map]
    rfl

theorem mem_afterLast {c : Char} (hc : p c = false) (ht : ∀ d ∈ t, p d = false) (s : Text) :
    c ∈ afterLast p (s ++ c :: t) := by
  have hrev : (s ++ c :: t).reverse = t.reverse ++ c :: s.reverse := by simp
  rw [afterLast, List.mem_reverse, hrev, List.takeWhile_append_of_pos (by simpa using ht),
    List.takeWhile_cons_of_pos (by simpa using hc)]
  simp

theorem afterLast_eq_self (ht : ∀ c ∈ t, p c = false) : afterLast p t = t := by
  have hall : ∀ c ∈ t.reverse, (!p c) = true := by
    simpa using ht
  rw [afterLast, List.takeWhile_eq_self_iff.mpr hall, List.reverse_reverse]

/-- What stands in front can only add to what follows the last separator. -/
theorem afterLast_suffix (p : Char → Bool) (s t : Text) :
    afterLast p t <:+ afterLast p (s ++ t) := by
  rw [afterLast, afterLast, List.reverse_suffix, List.reverse_append, List.takeWhile_append]
  split
  · exact (List.takeWhile_prefix _).trans (List.prefix_append ..)
  · exact List.prefix_refl _

theorem forall_mem_afterLast (p : Char → Bool) (t : Text) : ∀ c ∈ afterLast p t, p c = false := by
  intro c hc
  have h := List.mem_takeWhile_imp (List.mem_reverse.mp hc)
  simpa using h

theorem countP_afterLast (p : Char → Bool) (t : Text) : (afterLast p t).countP p = 0 := by
  rw [List.countP_eq_zero]
  intro c hc
  rw [forall_mem_afterLast p t c hc]
  exact Bool.false_ne_true

/-- What follows the last separator is all of the text, or stands behind the separator. -/
theorem eq_afterLast_or (p : Char → Bool) (t : Text) :
    t = afterLast p t ∨ ∃ s d, p d = true ∧ t = s ++ d :: afterLast p t := by
  have hsplit := List.takeWhile_append_dropWhile (p := (!p ·)) (l := t.reverse)
  cases hd : t.reverse.dropWhile (!p ·) with
  | nil =>
    rw [hd, List.append_nil] at hsplit
    exact .inl (by rw [afterLast, hsplit, List.reverse_reverse])
  | cons d s =>
    have hp : p d = true := by
      have h := List.head_dropWhile_not (!p ·) (w := by rw [hd]; exact List.cons_ne_nil _ _)
      simpa [hd] using h
    refine .inr ⟨s.reverse, d, hp, ?_⟩
    rw [hd] at hsplit
    have hrev := congrArg List.reverse hsplit
    rw [List.reverse_append, List.reverse_cons, List.reverse_reverse, List.append_assoc] at hrev
    exact hrev.symm

theorem getLast?_of_afterLast {c : Char} (hc : c ∈ (afterLast p t).getLast?) :
    c ∈ t.getLast? := by
  rcases eq_afterLast_or p t with h | ⟨s, d, -, h⟩
  · rwa [← h] at hc
  · rw [h, List.getLast?_append_cons, List.getLast?_cons, Option.mem_def.mp hc]
    rfl

/-- A text without separators goes behind what follows the last one. -/
theorem afterLast_append (ht : ∀ c ∈ t, p c = false) (s : Text) :
    afterLast p (s ++ t) = afterLast p s ++ t := by
  rw [afterLast, List.reverse_append, List.takeWhile_append_of_pos (by simpa using ht),
    List.reverse_append, List.reverse_reverse]
  rfl

theorem afterLast_concat {c : Char} (hc : p c = false) (t : Text) :
    afterLast p (t ++ [c]) = afterLast p t ++ [c] :=
  afterLast_append (by simpa using hc) t

/-- A text without separators is one part. -/
theorem splitOn_of_forall_not (ht : ∀ c ∈ t, p c = false) : splitOn p t = [t] := by
  induction t with
  | nil => rfl
  | cons c t ih =>
    rw [splitOn, if_neg (by simp [ht c List.mem_cons_self]),
      ih fun c hc => ht c (List.mem_cons_of_mem _ hc)]

/-- A part ends at the first separator behind it. -/
theorem splitOn_append (ht : ∀ c ∈ t, p c = false) (hd : p d = true) (s : Text) :
    splitOn p (t ++ d :: s) = t :: splitOn p s := by
  induction t with
  | nil => simp [splitOn, hd]
  | cons c t ih =>
    rw [List.cons_append, splitOn, if_neg (by simp [ht c List.mem_cons_self]),
      ih fun c hc => ht c (List.mem_cons_of_mem _ hc)]

/-- A separator ends one part and begins the next. -/
theorem splitOn_append_cons (hd : p d = true) (s t : Text) :
    splitOn p (s ++ d :: t) = splitOn p s ++ splitOn p t := by
  induction s with
  | nil => simp [splitOn, hd]
  | cons c s ih =>
    rw [List.cons_append, splitOn, splitOn, ih]
    split
    · rfl
    · obtain ⟨part, parts, hs⟩ := List.exists_cons_of_ne_nil (splitOn_ne_nil p s)
      rw [hs]
      rfl

theorem exists_splitOn_append (hs : ∀ c ∈ s, p c = false) (t : Text) :
    ∃ w parts, splitOn p (s ++ t) = (s ++ w) :: parts := by
  induction s with
  | nil => exact List.exists_cons_of_ne_nil (splitOn_ne_nil p t)
  | cons c s ih =>
    obtain ⟨w, parts, h⟩ := ih fun c hc => hs c (List.mem_cons_of_mem _ hc)
    refine ⟨w, parts, ?_⟩
    rw [List.cons_append, splitOn, if_neg (by simp [hs c List.mem_cons_self]), h]
    rfl

/-- There is one part more than there are separators. -/
theorem length_splitOn (p : Char → Bool) (t : Text) : (splitOn p t).length = t.countP p + 1 := by
  induction t with
  | nil => rfl
  | cons c t ih =>
    obtain ⟨part, parts, hparts⟩ := List.exists_cons_of_ne_nil (splitOn_ne_nil p t)
    rw [hparts] at ih
    rw [splitOn, hparts]
    by_cases hc : p c = true
    · rw [if_pos hc, List.countP_cons_of_pos hc, List.length_cons, ih]
    · rw [if_neg hc, List.countP_cons_of_neg hc]
      exact ih

/-- A part begins behind the last separator of what stands before, and as many parts are before it
as there are separators. -/
theorem exists_getElem?_splitOn (p : Char → Bool) (s t : Text) :
    ∃ w, (splitOn p (s ++ t))[s.countP p]? = some (afterLast p s ++ w) := by
  obtain ⟨w, parts, hw⟩ := exists_splitOn_append (forall_mem_afterLast p s) t
  refine ⟨w, ?_⟩
  rcases eq_afterLast_or p s with hs | ⟨r, d, hd, hs⟩
  · have hcount : s.countP p = 0 := by
      rw [hs, countP_afterLast]
    rw [← hs] at hw ⊢
    rw [hw, hcount]
    rfl
  · have hcount : s.countP p = (splitOn p r).length := by
      rw [length_splitOn]
      conv_lhs => rw [hs, List.countP_append, List.countP_cons_of_pos hd, countP_afterLast]
    have hparts : splitOn p (s ++ t) = splitOn p r ++ (afterLast p s ++ w) :: parts := by
      rw [← hw]
      conv_lhs => rw [hs, List.append_assoc, List.cons_append, splitOn_append_cons hd]
    rw [hparts, hcount, List.getElem?_append_right (Nat.le_refl _), Nat.sub_self]
    rfl

/-- What follows the last separator begins a part, whatever stands behind it. -/
theorem exists_mem_splitOn (p : Char → Bool) (s t : Text) :
    ∃ w, afterLast p s ++ w ∈ splitOn p (s ++ t) := by
  obtain ⟨w, hw⟩ := exists_getElem?_splitOn p s t
  exact ⟨w, List.mem_of_getElem? hw⟩

theorem join_cons_cons (sep s t : Text) (ts : List Text) :
    join sep (s :: t :: ts) = s ++ sep ++ join sep (t :: ts) := rfl

theorem join_cons (sep t : Text) (hne : ts ≠ []) :
    join sep (t :: ts) = t ++ sep ++ join sep ts := by
  obtain ⟨u, us, rfl⟩ := List.exists_cons_of_ne_nil hne
  rfl

theorem join_concat (sep t : Text) (hne : ts ≠ []) :
    join sep (ts ++ [t]) = join sep ts ++ sep ++ t := by
  induction ts with
  | nil => exact absurd rfl hne
  | cons u us ih =>
    by_cases hus : us = []
    · subst hus
      rfl
    · rw [List.cons_append, join_cons sep u (by simp), ih hus, join_cons sep u hus]
      simp only [List.append_assoc]

/-- Joining undoes splitting. -/
theorem join_splitOn (c : Char) (t : Text) : join [c] (splitOn (· == c) t) = t := by
  induction t with
  | nil => rfl
  | cons d t ih =>
    rw [splitOn]
    split
    · rename_i hd
      rw [join_cons _ _ (splitOn_ne_nil _ t), ih, beq_iff_eq.mp hd]
      rfl
    · obtain ⟨part, parts, hs⟩ := List.exists_cons_of_ne_nil (splitOn_ne_nil (· == c) t)
      rw [hs] at ih ⊢
      rw [← ih]
      cases parts <;> rfl

theorem length_join (c : Char) (hne : ts ≠ []) :
    (join [c] ts).length + 1 = (ts.map fun t => t.length + 1).sum := by
  induction ts with
  | nil => exact absurd rfl hne
  | cons t ts ih =>
    by_cases hts : ts = []
    · subst hts
      simp [join]
    · rw [join_cons _ _ hts, List.map_cons, List.sum_cons, ← ih hts]
      simp only [List.length_append, List.length_singleton]
      omega

/-- Splitting undoes joining where no part holds the separator. -/
theorem splitOn_join {c : Char} (hne : ts ≠ []) (h : ∀ t ∈ ts, c ∉ t) :
    splitOn (· == c) (join [c] ts) = ts := by
  induction ts with
  | nil => exact absurd rfl hne
  | cons t ts ih =>
    have ht := beq_eq_false_of_mem (h t List.mem_cons_self)
    cases ts with
    | nil => exact splitOn_of_forall_not ht
    | cons u ts =>
      rw [join_cons_cons, List.append_assoc, List.singleton_append, splitOn_append ht (by simp),
        ih (by simp) fun v hv => h v (List.mem_cons_of_mem _ hv)]

/-! ## White space around a text -/

theorem trimStart_append_of_blank (hs : ∀ c ∈ s, isBlank c = true) (t : Text) :
    trimStart (s ++ t) = trimStart t := by
  rw [trimStart, List.dropWhile_append_of_pos hs]
  rfl

theorem trimEnd_append_of_blank (hs : ∀ c ∈ s, isBlank c = true) (t : Text) :
    trimEnd (t ++ s) = trimEnd t := by
  rw [trimEnd, dropEndWhile, List.reverse_append,
    List.dropWhile_append_of_pos fun c hc => hs c (List.mem_reverse.mp hc)]
  rfl

/-- What stands up to a character that is not dropped stays. -/
theorem dropEndWhile_append_cons {p : Char → Bool} {c : Char} (hc : p c = false) (s t : Text) :
    dropEndWhile p (s ++ c :: t) = s ++ c :: dropEndWhile p t := by
  have hfront : (c :: s.reverse).dropWhile p = c :: s.reverse :=
    List.dropWhile_cons_of_neg (by simp [hc])
  have hrev : (s ++ c :: t).reverse = t.reverse ++ c :: s.reverse := by simp
  rw [dropEndWhile, dropEndWhile, hrev, List.dropWhile_append, hfront]
  split
  · rename_i hempty
    rw [List.isEmpty_iff.mp hempty]
    simp
  · simp

theorem trimEnd_append_cons {c : Char} (hc : isBlank c = false) (s t : Text) :
    trimEnd (s ++ c :: t) = s ++ c :: trimEnd t := dropEndWhile_append_cons hc s t

theorem trim_of_blank (hs : ∀ c ∈ s, isBlank c = true) : trim s = [] := by
  have h := trimStart_append_of_blank hs []
  rw [List.append_nil] at h
  rw [trim, h]
  rfl

theorem trim_append_of_blank (hs : ∀ c ∈ s, isBlank c = true) (t : Text) :
    trim (t ++ s) = trim t := by
  by_cases ht : ∀ c ∈ t, isBlank c = true
  · rw [trim_of_blank ht, trim_of_blank (List.forall_mem_append.mpr ⟨ht, hs⟩)]
  · have hne : (t.dropWhile isBlank).isEmpty ≠ true := by
      rwa [Ne, List.isEmpty_iff, List.dropWhile_eq_nil_iff]
    rw [trim, trim, trimStart, List.dropWhile_append, if_neg hne, trimEnd_append_of_blank hs]
    rfl

/-- The first character that is no white space begins the trimmed text. -/
theorem head?_trim {c : Char} (hs : ∀ d ∈ s, isBlank d = true) (hc : isBlank c = false)
    (t : Text) : (trim (s ++ c :: t)).head? = some c := by
  have hstart : trimStart (s ++ c :: t) = c :: t := by
    rw [trimStart_append_of_blank hs, trimStart, List.dropWhile_cons_of_neg (by simp [hc])]
  obtain ⟨w, hw⟩ := List.rdropWhile_prefix isBlank (c :: t)
  rw [trim, hstart, trimEnd, dropEndWhile_eq_rdropWhile]
  cases hd : List.rdropWhile isBlank (c :: t) with
  | nil =>
    rw [List.rdropWhile_eq_nil_iff] at hd
    rw [hd c List.mem_cons_self] at hc
    cases hc
  | cons d r =>
    rw [hd] at hw
    exact congrArg some (List.cons.inj hw).1

/-- A trimmed text comes back from between blanks. -/
theorem trim_append_append (hs : ∀ c ∈ s, isBlank c = true) (ht : Trimmed t) (hne : t ≠ [])
    {u : Text} (hu : ∀ c ∈ u, isBlank c = true) : trim (s ++ t ++ u) = t := by
  obtain ⟨hstart, hend⟩ := trimmed_iff_start_end.mp ht
  have hfront : trimStart (t ++ u) = t ++ u := by
    rw [trimStart_eq_self_iff] at hstart ⊢
    rwa [List.head?_append_of_ne_nil _ hne]
  rw [trim, List.append_assoc, trimStart_append_of_blank hs, hfront, trimEnd_append_of_blank hu,
    hend]

/-- What stands at the ends decides whether a text is trimmed. -/
theorem trimmed_cons_append {c e : Char} (hc : isBlank c = false) (he : isBlank e = false)
    (t : Text) : Trimmed (c :: t ++ [e]) := by
  refine trimmed_iff.mpr ⟨?_, ?_⟩
  · simpa using hc
  · rw [List.getLast?_concat]
    simpa using he

theorem trimmed_cons {c : Char} (hc : isBlank c = false) (ht : Trimmed t) : Trimmed (c :: t) := by
  have hend : trimEnd (c :: t) = c :: trimEnd t := trimEnd_append_cons hc [] t
  refine trimmed_iff_start_end.mpr ⟨trimStart_eq_self_iff.mpr (by simpa using hc), ?_⟩
  rw [hend, (trimmed_iff_start_end.mp ht).2]

theorem trimmed_of_forall (h : ∀ c ∈ t, isBlank c = false) : Trimmed t :=
  trimmed_iff.mpr ⟨fun c hc => h c (List.mem_of_head? hc),
    fun c hc => h c (List.mem_of_getLast? hc)⟩

/-- Only the ends of the outer texts matter. -/
theorem trimmed_append (hs : Trimmed s) (ht : Trimmed t) (hsn : s ≠ []) (htn : t ≠ [])
    (u : Text) : Trimmed (s ++ u ++ t) := by
  rw [trimmed_iff] at hs ht ⊢
  refine ⟨?_, ?_⟩
  · rw [List.append_assoc, List.head?_append_of_ne_nil _ hsn]
    exact hs.1
  · rw [List.getLast?_append_of_ne_nil _ htn]
    exact ht.2

theorem trimmed_join {sep : Text} (h : ∀ t ∈ ts, Trimmed t ∧ t ≠ []) : Trimmed (join sep ts) := by
  have aux (hn : ts ≠ []) : Trimmed (join sep ts) ∧ join sep ts ≠ [] := by
    induction ts with
    | nil => exact absurd rfl hn
    | cons t ts ih =>
      obtain ⟨ht, htn⟩ := h t List.mem_cons_self
      cases ts with
      | nil => exact ⟨ht, htn⟩
      | cons u ts =>
        obtain ⟨hj, hjn⟩ := ih (fun v hv => h v (List.mem_cons_of_mem _ hv)) (by simp)
        rw [join_cons_cons]
        exact ⟨trimmed_append ht hj htn hjn sep, List.append_ne_nil_of_right_ne_nil _ hjn⟩
  by_cases hn : ts = []
  · subst hn
    rfl
  · exact (aux hn).1

theorem isSpace_eq_false {c : Char} (h : isBlank c = false) : isSpace c = false := by
  by_contra hs
  simp only [isSpace, Bool.not_eq_false, Bool.or_eq_true, beq_iff_eq] at hs
  rcases hs with (((rfl | rfl) | rfl) | rfl) | rfl <;> cases h

theorem isBlank_of_isSpace {c : Char} (h : isSpace c = true) : isBlank c = true := by
  by_contra hb
  rw [isSpace_eq_false (Bool.eq_false_iff.mpr hb)] at h
  cases h

/-! ## What trimming keeps -/

section

variable {q : Char → Bool}

theorem filter_dropWhile (h : ∀ c, p c = true → q c = false) (t : Text) :
    (t.dropWhile p).filter q = t.filter q := by
  induction t with
  | nil => rfl
  | cons c t ih =>
    by_cases hc : p c = true
    · rw [List.dropWhile_cons_of_pos hc, ih, List.filter_cons_of_neg (by simp [h c hc])]
    · rw [List.dropWhile_cons_of_neg hc]

theorem filter_trimEnd (h : ∀ c, isBlank c = true → q c = false) (t : Text) :
    (trimEnd t).filter q = t.filter q := by
  rw [trimEnd, dropEndWhile, List.filter_reverse, filter_dropWhile h, List.filter_reverse,
    List.reverse_reverse]

/-- Trimming takes off white space only. -/
theorem filter_trim (h : ∀ c, isBlank c = true → q c = false) (t : Text) :
    (trim t).filter q = t.filter q := by
  rw [trim, filter_trimEnd h, trimStart, filter_dropWhile h]

end

/-- Trimming drops blanks only. -/
theorem mem_trim {c : Char} (hm : c ∈ t) (hc : isBlank c = false) : c ∈ trim t := by
  have h : c ∈ t.filter (!isBlank ·) := List.mem_filter.mpr ⟨hm, by simp [hc]⟩
  rw [← filter_trim (by simp)] at h
  exact (List.mem_filter.mp h).1

end PageRules.Text
