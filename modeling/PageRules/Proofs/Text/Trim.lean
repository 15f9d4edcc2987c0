import Mathlib
import PageRules.Text.Basic

/-! # Trimmed texts -/

namespace PageRules.Text

/-- White space stands neither at the front nor at the end. -/
def Trimmed (t : Text) : Prop := trim t = t

instance (t : Text) : Decidable (Trimmed t) := inferInstanceAs (Decidable (trim t = t))

theorem dropEndWhile_eq_rdropWhile (p : Char → Bool) (t : Text) :
    dropEndWhile p t = t.rdropWhile p := rfl

theorem trim_isInfix (t : Text) : trim t <:+: t :=
  (List.rdropWhile_prefix isBlank _).isInfix.trans (List.dropWhile_suffix _).isInfix

/-- Only the first character decides whether there is something to trim in front. -/
theorem trimStart_eq_self_iff {t : Text} :
    trimStart t = t ↔ ∀ c ∈ t.head?, isBlank c = false := by
  rw [trimStart, List.dropWhile_eq_self_iff]
  cases t <;> simp

theorem trimEnd_eq_self_iff {t : Text} :
    trimEnd t = t ↔ ∀ c ∈ t.getLast?, isBlank c = false := by
  rw [trimEnd, dropEndWhile_eq_rdropWhile, List.rdropWhile_eq_self_iff]
  constructor
  · intro h c hc
    have hne : t ≠ [] := by rintro rfl; simp at hc
    rw [List.getLast?_eq_some_getLast hne] at hc
    cases hc
    simpa using h hne
  · intro h hne
    simpa using h _ (List.getLast?_eq_some_getLast hne)

theorem trimmed_iff_start_end {t : Text} : Trimmed t ↔ trimStart t = t ∧ trimEnd t = t := by
  constructor
  · intro h
    have hs : t.Sublist (trimStart t) := by
      conv_lhs => rw [← h]
      exact (List.rdropWhile_prefix isBlank _).sublist
    have hstart : trimStart t = t :=
      ((t.dropWhile_sublist isBlank).antisymm hs)
    exact ⟨hstart, by rw [Trimmed, trim, hstart] at h; exact h⟩
  · rintro ⟨hs, he⟩
    rw [Trimmed, trim, hs, he]

/-- A text is trimmed when neither its first nor its last character is blank. -/
theorem trimmed_iff {t : Text} :
    Trimmed t ↔ (∀ c ∈ t.head?, isBlank c = false) ∧ (∀ c ∈ t.getLast?, isBlank c = false) := by
  rw [trimmed_iff_start_end, trimStart_eq_self_iff, trimEnd_eq_self_iff]

theorem trimStart_trimStart (t : Text) : trimStart (trimStart t) = trimStart t :=
  List.dropWhile_idempotent ..

theorem trimEnd_trimEnd (t : Text) : trimEnd (trimEnd t) = trimEnd t :=
  List.rdropWhile_idempotent ..

/-- Trimming twice trims no more than trimming once. -/
theorem trimmed_trim (t : Text) : Trimmed (trim t) := by
  refine trimmed_iff_start_end.mpr ⟨?_, trimEnd_trimEnd _⟩
  rw [trimStart_eq_self_iff]
  intro c hc
  obtain ⟨u, hu⟩ := List.rdropWhile_prefix isBlank (trimStart t)
  refine trimStart_eq_self_iff.mp (trimStart_trimStart t) c ?_
  rw [← hu, List.head?_append]
  simp only [Option.mem_def] at hc ⊢
  rw [show (List.rdropWhile isBlank (trimStart t)).head? = some c from hc]
  rfl

theorem not_isUpper_of_mem_lower {t : Text} {c : Char} (h : c ∈ lower t) : c.isUpper = false := by
  obtain ⟨d, -, rfl⟩ := List.mem_map.mp h
  exact Char.isUpper_toLower_eq_false d

/-- The lower case adds letters only. -/
theorem mem_of_mem_lower {t : Text} {d : Char} (hd : d.isAlpha = false) (h : d ∈ lower t) :
    d ∈ t := by
  obtain ⟨c, hc, rfl⟩ := List.mem_map.mp h
  have hletter : c.isAlpha = false := by
    rw [← Char.isLower_toLower_eq_isAlpha]
    exact (Bool.or_eq_false_iff.mp hd).2
  rwa [Char.toLower_eq_of_not_isUpper (Bool.eq_false_iff.mp (Bool.or_eq_false_iff.mp hletter).1)]

end PageRules.Text
