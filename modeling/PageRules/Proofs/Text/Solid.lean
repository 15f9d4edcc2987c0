import Mathlib
import PageRules.Proofs.Text.Split

/-!
# Texts without white space

Words have no white space in them, and neither have numbers, which have no slash in them either.
-/

namespace PageRules.Text

variable {p : Char → Bool} {s t : Text} {ts : List Text}

/-- No character is white space. -/
def Solid (t : Text) : Prop := ∀ c ∈ t, isBlank c = false

namespace Solid

theorem nil : Solid [] := by simp [Solid]

theorem cons {c : Char} (hc : isBlank c = false) (h : Solid t) : Solid (c :: t) :=
  List.forall_mem_cons.mpr ⟨hc, h⟩

theorem append (hs : Solid s) (ht : Solid t) : Solid (s ++ t) :=
  List.forall_mem_append.mpr ⟨hs, ht⟩

theorem of_subset (h : Solid t) (hs : s ⊆ t) : Solid s := fun c hc => h c (hs hc)

theorem flatMap {α : Type} {f : α → Text} {l : List α} (h : ∀ a ∈ l, Solid (f a)) :
    Solid (l.flatMap f) := by
  intro c hc
  obtain ⟨a, ha, hca⟩ := List.mem_flatMap.mp hc
  exact h a ha c hca

theorem trimmed (h : Solid t) : Trimmed t := trimmed_of_forall h

end Solid

/-- Joining brings in the characters of the separator only. -/
theorem forall_mem_join {P : Char → Prop} {separator : Text} (hs : ∀ c ∈ separator, P c)
    (h : ∀ t ∈ ts, ∀ c ∈ t, P c) : ∀ c ∈ join separator ts, P c := by
  induction ts with
  | nil => exact List.forall_mem_nil P
  | cons t ts ih =>
    obtain ⟨ht, hts⟩ := List.forall_mem_cons.mp h
    cases ts with
    | nil => exact ht
    | cons u ts =>
      rw [join_cons_cons, List.append_assoc, List.forall_mem_append, List.forall_mem_append]
      exact ⟨ht, hs, ih hts⟩

/-- Where every character has a form, the last one's form ends the text of the forms. -/
theorem getLast?_flatMap {f : Char → Text} (hne : ∀ c, f c ≠ [])
    (h : ∀ c ∈ t.getLast?, Solid (f c)) : ∀ d ∈ (t.flatMap f).getLast?, isBlank d = false := by
  intro d hd
  obtain rfl | ⟨s, c, rfl⟩ := List.eq_nil_or_concat t
  · cases hd
  · rw [List.concat_eq_append, List.flatMap_append, List.flatMap_singleton,
      List.getLast?_append_of_ne_nil _ (hne c)] at hd
    exact h c (by simp) d (List.mem_of_getLast? hd)

/-- Separators stand in no part. -/
theorem forall_mem_splitOn (p : Char → Bool) (t : Text) :
    ∀ part ∈ splitOn p t, ∀ c ∈ part, p c = false ∧ c ∈ t := by
  induction t with
  | nil => simp [splitOn]
  | cons d t ih =>
    rw [splitOn]
    split
    · refine List.forall_mem_cons.mpr ⟨by simp, fun part hp c hc => ?_⟩
      exact (ih part hp c hc).imp_right (List.mem_cons_of_mem d)
    · rename_i hd
      obtain ⟨first, parts, hs⟩ := List.exists_cons_of_ne_nil (splitOn_ne_nil p t)
      rw [hs] at ih ⊢
      obtain ⟨hfirst, hparts⟩ := List.forall_mem_cons.mp ih
      refine List.forall_mem_cons.mpr ⟨List.forall_mem_cons.mpr ⟨?_, ?_⟩, ?_⟩
      · exact ⟨by simpa using hd, List.mem_cons_self⟩
      · exact fun c hc => (hfirst c hc).imp_right (List.mem_cons_of_mem d)
      · exact fun part hp c hc => (hparts part hp c hc).imp_right (List.mem_cons_of_mem d)

/-- The parts of a text without white space have none. -/
theorem Solid.splitOn (h : Solid t) : ∀ part ∈ splitOn p t, Solid part :=
  fun part hp => h.of_subset fun c hc => (forall_mem_splitOn p t part hp c hc).2

theorem solid_of_mem_words {w : Text} (h : w ∈ words t) : Solid w :=
  fun c hc => (forall_mem_splitOn isBlank t w (List.mem_filter.mp h).1 c hc).1

/-! ## Slashes -/

/-- The text has neither white space nor a slash. -/
def Compact (t : Text) : Prop := ∀ c ∈ t, isBlank c = false ∧ c ≠ '/'

namespace Compact

theorem nil : Compact [] := List.forall_mem_nil _

theorem cons {c : Char} (hb : isBlank c = false) (hs : c ≠ '/') (h : Compact t) :
    Compact (c :: t) := List.forall_mem_cons.mpr ⟨⟨hb, hs⟩, h⟩

theorem append (hs : Compact s) (ht : Compact t) : Compact (s ++ t) :=
  List.forall_mem_append.mpr ⟨hs, ht⟩

theorem solid (h : Compact t) : Solid t := fun c hc => (h c hc).1

theorem no_slash (h : Compact t) : '/' ∉ t := fun hm => (h '/' hm).2 rfl

end Compact

/-! ## Codes of white space -/

/-- The code points of white space. -/
def blankCodes : List Nat :=
  [9, 10, 11, 12, 13, 0x20, 0x85, 0xA0, 0x1680, 0x2000, 0x2001, 0x2002, 0x2003, 0x2004, 0x2005,
    0x2006, 0x2007, 0x2008, 0x2009, 0x200A, 0x2028, 0x2029, 0x202F, 0x205F, 0x3000]

/-- White space is told by a list of codes. -/
theorem isBlank_iff {c : Char} : isBlank c = true ↔ c.toNat ∈ blankCodes := by
  simp only [isBlank, blankCodes, Bool.or_eq_true, Bool.and_eq_true, decide_eq_true_eq, beq_iff_eq,
    List.mem_cons, List.not_mem_nil, or_false]
  omega

/-- Behind the space, ASCII has no white space. -/
theorem isBlank_of_ascii {c : Char} (hc : 0x20 < c.toNat) (ha : c.toNat < 0x80) :
    isBlank c = false := by
  rw [Bool.eq_false_iff, Ne, isBlank_iff]
  simp only [blankCodes, List.mem_cons, List.not_mem_nil, or_false]
  omega

/-- A number that is no code of white space is no white space; where it is no code at all, it
counts as zero. -/
theorem isBlank_ofNat {n : Nat} (h : n ∉ blankCodes) : isBlank (Char.ofNat n) = false := by
  rw [Bool.eq_false_iff, Ne, isBlank_iff]
  by_cases hn : n.isValidChar
  · rwa [Char.toNat_ofNat, if_pos hn]
  · rw [Char.toNat_ofNat, if_neg hn]
    decide

/-- A digit is one of the sixteen, or the star that stands for a number too large for one. -/
theorem digitChar_cases {P : Char → Prop} (hdigit : ∀ n < 16, P (Nat.digitChar n)) (hstar : P '*')
    (n : Nat) : P (Nat.digitChar n) := by
  by_cases hn : n < 16
  · exact hdigit n hn
  · have h : Nat.digitChar n = '*' := by
      unfold Nat.digitChar
      repeat rw [if_neg (by omega)]
    rwa [h]

theorem isBlank_digitChar (n : Nat) : isBlank (Nat.digitChar n) = false :=
  digitChar_cases (P := fun c => isBlank c = false) (by decide) (by decide) n

theorem digitChar_ne_slash (n : Nat) : Nat.digitChar n ≠ '/' :=
  digitChar_cases (P := (· ≠ '/')) (by decide) (by decide) n

/-- Digits are put in front of what is there one by one. -/
theorem forall_mem_toDigitsCore {P : Char → Prop} (hP : ∀ n, P (Nat.digitChar n))
    (base fuel n : Nat) (h : ∀ c ∈ t, P c) : ∀ c ∈ Nat.toDigitsCore base fuel n t, P c := by
  induction fuel generalizing n t with
  | zero => exact h
  | succ fuel ih =>
    rw [Nat.toDigitsCore]
    split
    · exact List.forall_mem_cons.mpr ⟨hP _, h⟩
    · exact ih _ (List.forall_mem_cons.mpr ⟨hP _, h⟩)

/-- A number is written in digits. -/
theorem forall_mem_toDigits {P : Char → Prop} (hP : ∀ n, P (Nat.digitChar n)) (base n : Nat) :
    ∀ c ∈ Nat.toDigits base n, P c :=
  forall_mem_toDigitsCore hP base (n + 1) n (List.forall_mem_nil P)

theorem solid_toDigits (base n : Nat) : Solid (Nat.toDigits base n) :=
  forall_mem_toDigits isBlank_digitChar base n

theorem compact_toDigits (base n : Nat) : Compact (Nat.toDigits base n) :=
  forall_mem_toDigits (fun k => ⟨isBlank_digitChar k, digitChar_ne_slash k⟩) base n

end PageRules.Text
