import Mathlib
import PageRules.Proofs.RuleText.Written

/-!
# Texts in normal form

A text is its own normal form when it has line feeds only and no reference, and opens a comment
nowhere but in the header of a path.
-/

namespace PageRules

namespace Text

variable {a b c : Char} {s t : Text}

theorem not_hasPair_nil : ¬ HasPair a b [] := by simp [HasPair]

/-- A pair begins with the first character or stands further on. -/
theorem hasPair_cons : HasPair a b (c :: t) ↔ (c = a ∧ b ∈ t.head?) ∨ HasPair a b t := by
  rw [HasPair, List.infix_cons_iff, List.cons_prefix_cons]
  cases t with
  | nil => simp [HasPair]
  | cons d t => simp [HasPair, eq_comm]

/-- A character that is no part of the pair keeps apart what stands on its sides. -/
theorem hasPair_append_cons (ha : c ≠ a) (hb : c ≠ b) :
    HasPair a b (s ++ c :: t) ↔ HasPair a b s ∨ HasPair a b t := by
  induction s with
  | nil =>
    rw [List.nil_append, hasPair_cons]
    simp [ha, not_hasPair_nil]
  | cons d s ih =>
    rw [List.cons_append, hasPair_cons, ih, hasPair_cons, or_assoc]
    cases s with
    | nil => simp [hb]
    | cons e s => simp

/-- Line feeds make no pair, so only the lines can have one. -/
theorem hasPair_unlines {lines : List Text} (ha : '\n' ≠ a) (hb : '\n' ≠ b)
    (h : ∀ t ∈ lines, ¬ HasPair a b t) : ¬ HasPair a b (unlines lines) := by
  induction lines with
  | nil => exact not_hasPair_nil
  | cons t lines ih =>
    rw [unlines, List.flatMap_cons, List.append_assoc, List.singleton_append,
      hasPair_append_cons ha hb]
    rintro (ht | hr)
    · exact h t List.mem_cons_self ht
    · exact ih (fun u hu => h u (List.mem_cons_of_mem _ hu)) hr

theorem unlines_cons (t : Text) (lines : List Text) :
    unlines (t :: lines) = t ++ '\n' :: unlines lines := by
  simp [unlines]

theorem unlines_nil_cons (lines : List Text) : unlines ([] :: lines) = '\n' :: unlines lines :=
  unlines_cons [] lines

theorem unlines_append (ls ms : List Text) : unlines (ls ++ ms) = unlines ls ++ unlines ms :=
  List.flatMap_append

theorem mem_unlines {lines : List Text} (h : c ∈ unlines lines) :
    c = '\n' ∨ ∃ t ∈ lines, c ∈ t := by
  obtain ⟨t, ht, hc⟩ := List.mem_flatMap.mp h
  rcases List.mem_append.mp hc with hc | hc
  · exact .inr ⟨t, ht, hc⟩
  · exact .inl (List.mem_singleton.mp hc)

end Text

namespace RuleText

open Text

/-- Without a reference there is nothing to decode. -/
theorem decodeBreaks_eq_self {t : Text} (h : ¬ HasPair '&' '#' t) : decodeBreaks t = t := by
  fun_induction decodeBreaks t with
  | case1 => exact absurd (hasPair_cons.mpr (.inl ⟨rfl, rfl⟩)) h
  | case2 => exact absurd (hasPair_cons.mpr (.inl ⟨rfl, rfl⟩)) h
  | case3 c rest _ _ ih => rw [ih fun hr => h (hasPair_cons.mpr (.inr hr))]
  | case4 => rfl

theorem unifyBreaks_eq_self {t : Text} (h : '\r' ∉ t) : unifyBreaks t = t := by
  fun_induction unifyBreaks t with
  | case1 => exact absurd List.mem_cons_self h
  | case2 => exact absurd List.mem_cons_self h
  | case3 c rest _ _ ih => rw [ih (List.not_mem_of_not_mem_cons h)]
  | case4 => rfl

/-- A line that is its own normal form. -/
structure Kept (t : Text) : Prop where
  no_break : '\n' ∉ t ∧ '\r' ∉ t
  no_reference : ¬ HasPair '&' '#' t
  /-- What opens a comment stands in the header of a path. -/
  comment : ∀ u v, t = u ++ '/' :: '*' :: v → inPathHeader true u = true

theorem kept_of_clean {t : Text} (h : Clean t) : Kept t where
  no_break := ⟨h.not_mem _ (by simp), h.not_mem _ (by simp)⟩
  no_reference := h.no_reference
  comment := by
    rintro u v rfl
    exact absurd ⟨u, v, by simp⟩ h.no_comment

namespace Normal

/-- Puts a text in front. -/
def prepend (t : Text) (n : Normal) : Normal := t.foldr cons n

theorem prepend_eq (t : Text) (n : Normal) : prepend t n = ⟨t ++ n.text, n.unclosed⟩ := by
  induction t with
  | nil => rfl
  | cons c t ih =>
    rw [prepend, List.foldr_cons, ← prepend, ih]
    rfl

theorem strip_cons (place : Place) {c : Char} {rest : Text} (h : c = '/' → '*' ∉ rest.head?) :
    strip place none (c :: rest) = cons c (strip (place.push c) none rest) := by
  rw [strip]
  rintro r rfl rfl
  exact h rfl rfl

theorem strip_pair {place : Place} (h : place.inHeader = true) (rest : Text) :
    strip place none ('/' :: '*' :: rest) =
      cons '/' (cons '*' (strip ((place.push '/').push '*') none rest)) := by
  rw [strip, if_pos h]

/-- Stripping goes through a line, where `place` is some way into it. -/
theorem strip_line (place : Place) (t s : Text) (hn : '\n' ∉ t)
    (hc : ∀ u v, t = u ++ '/' :: '*' :: v → inPathHeader true (place.line.reverse ++ u) = true) :
    strip place none (t ++ '\n' :: s) =
      prepend (t ++ ['\n']) (strip ⟨[], place.number + 1⟩ none s) := by
  match t with
  | [] => exact strip_cons place (by rintro ⟨⟩)
  | c :: t =>
    have push {c : Char} (hc : c ≠ '\n') (p : Place) : p.push c = ⟨c :: p.line, p.number⟩ := by
      simp [Place.push, hc]
    have hcn : c ≠ '\n' := (List.ne_of_not_mem_cons hn).symm
    by_cases hp : c = '/' ∧ '*' ∈ t.head?
    · obtain ⟨rfl, hs⟩ := hp
      obtain ⟨t, rfl⟩ := List.head?_eq_some_iff.mp hs
      have hh : place.inHeader = true := by simpa [Place.inHeader] using hc [] t rfl
      rw [List.cons_append, List.cons_append, strip_pair hh, push (by decide), push (by decide),
        strip_line _ t s (by simp_all)]
      · rfl
      · rintro u v rfl
        simpa using hc ('/' :: '*' :: u) v rfl
    · rw [List.cons_append, strip_cons, push hcn,
        strip_line _ t s (List.not_mem_of_not_mem_cons hn)]
      · rfl
      · rintro u v rfl
        simpa using hc (c :: u) v rfl
      · rintro rfl
        cases t with
        | nil => simp
        | cons d t => simpa using hp
termination_by t.length

/-- Lines that are each their own normal form are so together. -/
theorem strip_unlines {lines : List Text} (h : ∀ t ∈ lines, Kept t) (n : Nat) :
    strip ⟨[], n⟩ none (unlines lines) = ⟨unlines lines, none⟩ := by
  induction lines generalizing n with
  | nil => rfl
  | cons t lines ih =>
    have ht := h t List.mem_cons_self
    rw [unlines_cons, strip_line ⟨[], n⟩ t _ ht.no_break.1 (by simpa using ht.comment),
      ih fun u hu => h u (List.mem_cons_of_mem _ hu), prepend_eq, List.append_assoc]
    rfl

end Normal

/-- Lines that are kept are their own normal form. -/
theorem normalize_unlines {lines : List Text} (h : ∀ t ∈ lines, Kept t) :
    normalize (unlines lines) = ⟨unlines lines, none⟩ := by
  have hd : decodeBreaks (unlines lines) = unlines lines :=
    decodeBreaks_eq_self (hasPair_unlines (by decide) (by decide) fun t ht => (h t ht).no_reference)
  have hu : unifyBreaks (unlines lines) = unlines lines := by
    refine unifyBreaks_eq_self fun hr => ?_
    rcases mem_unlines hr with hr | ⟨t, ht, hr⟩
    · exact absurd hr (by decide)
    · exact (h t ht).no_break.2 hr
  rw [normalize, unified, hd, hu]
  exact Normal.strip_unlines h 1

end RuleText
end PageRules
