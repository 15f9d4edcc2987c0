import Mathlib
import PageRules.Proofs.RuleText.Written
import PageRules.Proofs.Text.Split

/-!
# Where keywords stand

`Keyword.occurs` says whether a scan outside braces comes upon a keyword in a text. A character that
can be part of neither the keyword nor what may follow it divides a text into parts that are looked
at on their own (`occurs_append_barrier`).
-/

namespace PageRules.RuleText.Keyword

variable {k : Keyword} {d : Char}

/-- The character is no letter of the keyword, and neither a gap nor a colon. -/
structure Barrier (k : Keyword) (d : Char) : Prop where
  not_letter : d.toLower ∉ k.name
  not_gap : Text.isGap d = false
  not_colon : d ≠ ':'

/-- Characters that divide for every keyword. -/
def dividers : List Char := ['\n', '\x7b', '[', ']', ',', '|', '"']

theorem barrier_of_mem (h : d ∈ dividers) : k.Barrier d := by
  have hall : dividers.all fun d =>
      !List.elem d.toLower k.name && !Text.isGap d && d != ':' := by cases k <;> rfl
  have hd := List.all_eq_true.mp hall d h
  simp only [Bool.and_eq_true, Bool.not_eq_true', bne_iff_ne] at hd
  exact ⟨by simpa using hd.1.1, hd.1.2, hd.2⟩

/-- A character that is not in the word keeps the search for it to its own side. -/
theorem afterWord?_append_barrier {w : Text} (hd : d.toLower ∉ w) (t s : Text) :
    afterWord? w (t ++ d :: s) = (afterWord? w t).map (· ++ d :: s) := by
  fun_induction afterWord? w t with
  | case1 => rw [afterWord?]; rfl
  | case2 w word c t hc ih =>
    rw [List.cons_append, afterWord?, if_pos hc, ih (List.not_mem_of_not_mem_cons hd)]
  | case3 w word c t hc => rw [List.cons_append, afterWord?, if_neg hc]; rfl
  | case4 w word =>
    rw [List.nil_append, afterWord?, if_neg (by simpa using (List.ne_of_not_mem_cons hd).symm)]
    rfl

/-- No keyword goes over a barrier. -/
theorem after?_append_barrier (hd : k.Barrier d) (t s : Text) :
    k.after? (t ++ d :: s) = (k.after? t).map (· ++ d :: s) := by
  unfold after?
  rw [afterWord?_append_barrier hd.not_letter]
  cases afterWord? k.name t with
  | none => rfl
  | some rest =>
    have hdrop : (rest ++ d :: s).dropWhile Text.isGap = rest.dropWhile Text.isGap ++ d :: s := by
      rw [List.dropWhile_append, List.dropWhile_cons_of_neg (by simp [hd.not_gap])]
      split
      · simp_all
      · rfl
    simp only [Option.map_some, hdrop]
    cases rest.dropWhile Text.isGap with
    | nil =>
      have := hd.not_colon
      simp [this]
    | cons c h =>
      by_cases hc : c = ':'
      · subst hc; rfl
      · simp [hc]

theorem exists_name_eq_cons (k : Keyword) :
    ∃ c w, k.name = c :: w ∧ Text.isSpace c = false ∧ c ∉ ['\x7b', '\x7d', '['] := by
  cases k <;> exact ⟨_, _, rfl, rfl, by decide⟩

@[simp] theorem after?_nil (k : Keyword) : k.after? [] = none := by
  cases k <;> rfl

/-- Nothing but the letters of a keyword can begin it. -/
theorem after?_cons_of_not_letter {c : Char} (hc : c.toLower ∉ k.name) (t : Text) :
    k.after? (c :: t) = none := by
  have h := afterWord?_append_barrier hc [] t
  have hn : afterWord? k.name [] = none := by cases k <;> rfl
  rw [hn] at h
  rw [after?, ← List.nil_append (c :: t), h]
  rfl

theorem suffix_of_afterWord? {w t rest : Text} (h : afterWord? w t = some rest) : rest <:+ t := by
  fun_induction afterWord? w t with
  | case1 =>
    cases h
    exact List.suffix_refl _
  | case2 _ _ _ _ _ ih => exact (ih h).trans (List.suffix_cons _ _)
  | case3 => cases h
  | case4 => cases h

theorem colon_mem_of_after? {t h : Text} (ha : k.after? t = some h) : ':' ∈ t := by
  unfold after? at ha
  split at ha
  · rename_i rest hw
    split at ha
    · rename_i hd
      have hc : ':' ∈ rest.dropWhile Text.isGap := by rw [hd]; exact List.mem_cons_self
      exact (suffix_of_afterWord? hw).subset (List.dropWhile_suffix _ |>.subset hc)
    · cases ha
  · cases ha

/-- A keyword needs its colon. -/
theorem occurs_of_not_colon_mem {t : Text} (h : ':' ∉ t) (b : Bool) : k.occurs b t = false := by
  induction t generalizing b with
  | nil => rfl
  | cons c t ih =>
    have ha : k.after? (c :: t) = none := by
      cases ha : k.after? (c :: t) with
      | none => rfl
      | some r => exact absurd (colon_mem_of_after? ha) h
    rw [occurs, ha, ih (List.not_mem_of_not_mem_cons h)]
    simp

theorem occurs_cons_of_not_letter {c : Char} (hc : c.toLower ∉ k.name) (b : Bool) (t : Text) :
    k.occurs b (c :: t) = k.occurs (boundsKeyword c) t := by
  rw [occurs, after?_cons_of_not_letter hc]
  simp

/-- A keyword is found wherever one is allowed that is found where none is allowed. -/
theorem occurs_false_of_true {t : Text} (h : k.occurs true t = false) (b : Bool) :
    k.occurs b t = false := by
  cases t with
  | nil => rfl
  | cons c t =>
    rw [occurs, Bool.or_eq_false_iff] at h
    rw [occurs, h.2, Bool.or_false]
    cases b with
    | true => exact h.1
    | false => rfl

/-- A barrier divides a text into parts that are looked at on their own. -/
theorem occurs_append_barrier (hd : k.Barrier d) (b : Bool) (t s : Text) :
    k.occurs b (t ++ d :: s) = (k.occurs b t || k.occurs (boundsKeyword d) s) := by
  induction t generalizing b with
  | nil => exact occurs_cons_of_not_letter hd.not_letter b s
  | cons c t ih =>
    rw [List.cons_append, occurs, ih, occurs, ← List.cons_append, after?_append_barrier hd,
      Option.isSome_map, Bool.or_assoc]

theorem occurs_append_gap (b : Bool) (t : Text) : k.occurs b (t ++ [' ']) = k.occurs b t := by
  have hl : ' '.toLower ∉ k.name := by cases k <;> decide
  have hafter (t : Text) : (k.after? (t ++ [' '])).isSome = (k.after? t).isSome := by
    unfold after?
    rw [afterWord?_append_barrier hl t []]
    cases afterWord? k.name t with
    | none => rfl
    | some rest =>
      rw [Option.map_some]
      dsimp only
      rw [List.dropWhile_append, show [' '].dropWhile Text.isGap = [] from rfl]
      cases rest.dropWhile Text.isGap with
      | nil => rfl
      | cons c h => by_cases hc : c = ':' <;> simp [hc]
  induction t generalizing b with
  | nil =>
    have hn : k.occurs b [' '] = (b && (k.after? ([] ++ [' '])).isSome || false) := rfl
    rw [List.nil_append, hn, hafter]
    simp [occurs]
  | cons c t ih => rw [List.cons_append, occurs, ih, ← List.cons_append, hafter, ← occurs]

theorem occurs_indent {indent : Text} (hi : ∀ c ∈ indent, c = ' ') (t : Text) :
    k.occurs true (indent ++ t) = k.occurs true t := by
  have hl : ' '.toLower ∉ k.name := by cases k <;> decide
  induction indent with
  | nil => rfl
  | cons c indent ih =>
    obtain rfl : c = ' ' := hi c List.mem_cons_self
    rw [List.cons_append, occurs_cons_of_not_letter hl]
    exact ih fun c hc => hi c (List.mem_cons_of_mem _ hc)

theorem occurs_join {c : Char} (hc : k.Barrier c) (hb : boundsKeyword c = false) {ts : List Text}
    (h : ∀ t ∈ ts, k.occurs false t = false) : k.occurs false (Text.join [c] ts) = false := by
  induction ts with
  | nil => rfl
  | cons t ts ih =>
    have ht := h t List.mem_cons_self
    cases ts with
    | nil => exact ht
    | cons u ts =>
      rw [Text.join_cons_cons, List.append_assoc, List.singleton_append, occurs_append_barrier hc,
        ht, hb]
      exact ih fun v hv => h v (List.mem_cons_of_mem _ hv)

/-- No keyword begins inside a run of characters that bound none. -/
theorem occurs_append_of_not_bounds {t : Text} (ht : ∀ c ∈ t, boundsKeyword c = false) (s : Text) :
    k.occurs false (t ++ s) = k.occurs false s := by
  induction t with
  | nil => rfl
  | cons c t ih =>
    rw [List.cons_append, occurs, ht c List.mem_cons_self,
      ih fun c hc => ht c (List.mem_cons_of_mem _ hc)]
    rfl

theorem afterWord?_name (word t : Text) (h : ∀ c ∈ word, c.toLower = c) :
    afterWord? word (word ++ t) = some t := by
  induction word with
  | nil => rw [List.nil_append, afterWord?]
  | cons c word ih =>
    rw [List.cons_append, afterWord?, if_pos (by simp [h c]), ih fun c hc => h c (by simp [hc])]

/-- A keyword is read as it is written. -/
theorem after?_name (k : Keyword) (t : Text) : k.after? (k.name ++ ':' :: t) = some t := by
  have hl : k.name.all (fun c => c.toLower == c) = true := by cases k <;> rfl
  rw [after?, afterWord?_name k.name _ (by simpa using hl)]
  rfl

end PageRules.RuleText.Keyword
