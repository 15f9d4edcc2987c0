import Mathlib
import PageRules.Proofs.RuleText.Keyword
import PageRules.Proofs.RuleText.Normal
import PageRules.Proofs.Text.Split

/-!
# What written lines hold

`Text.Free` passes through every way in which lines are put together, since the characters between
their parts belong to no pair (`Text.Free.append_cons`). The lines of options and of fields are
plain and hold no keyword of items.
-/

namespace PageRules

namespace Text

variable {c : Char} {cs ds : List Char} {s t : Text} {ts : List Text}

/-- The characters of the two pairs that `Free` excludes. -/
def pairChars : List Char := ['/', '*', '&', '#']

theorem free_nil (cs : List Char) : Free cs [] := ⟨by simp, not_hasPair_nil, not_hasPair_nil⟩

/-- A character of no pair joins two free texts: no pair comes about around it. -/
theorem Free.append_cons (hs : Free cs s) (ht : Free cs t) (hc : c ∉ cs ++ pairChars) :
    Free cs (s ++ c :: t) where
  not_mem d hd h := by
    rcases List.mem_append.mp h with h | h
    · exact hs.not_mem d hd h
    · rcases List.mem_cons.mp h with rfl | h
      · exact hc (List.mem_append_left _ hd)
      · exact ht.not_mem d hd h
  no_comment := by
    rw [hasPair_append_cons (by rintro rfl; simp [pairChars] at hc)
      (by rintro rfl; simp [pairChars] at hc)]
    exact not_or.mpr ⟨hs.no_comment, ht.no_comment⟩
  no_reference := by
    rw [hasPair_append_cons (by rintro rfl; simp [pairChars] at hc)
      (by rintro rfl; simp [pairChars] at hc)]
    exact not_or.mpr ⟨hs.no_reference, ht.no_reference⟩

theorem Free.cons (ht : Free cs t) (hc : c ∉ cs ++ pairChars) : Free cs (c :: t) :=
  (free_nil cs).append_cons ht hc

/-- Free texts may stand side by side where the second does not begin with a character of a pair. -/
theorem Free.append (hs : Free cs s) (ht : Free cs t) (h : ∀ c ∈ t.head?, c ∉ pairChars) :
    Free cs (s ++ t) := by
  cases t with
  | nil => simpa using hs
  | cons c t =>
    have htail : Free cs t :=
      ⟨fun d hd hm => ht.not_mem d hd (List.mem_cons_of_mem _ hm),
        fun hp => ht.no_comment (hasPair_cons.mpr (.inr hp)),
        fun hp => ht.no_reference (hasPair_cons.mpr (.inr hp))⟩
    refine hs.append_cons htail fun hc => ?_
    rcases List.mem_append.mp hc with hc | hc
    · exact ht.not_mem c hc List.mem_cons_self
    · exact h c rfl hc

theorem Free.mono (h : Free cs t) (hd : ds ⊆ cs) : Free ds t :=
  ⟨fun c hc => h.not_mem c (hd hc), h.no_comment, h.no_reference⟩

/-- A text without these characters and without those of the pairs is free. -/
theorem free_of_forall (h : ∀ c ∈ t, c ∉ cs ++ pairChars) : Free cs t := by
  induction t with
  | nil => exact free_nil cs
  | cons c t ih =>
    exact (ih fun d hd => h d (List.mem_cons_of_mem _ hd)).cons (h c List.mem_cons_self)

theorem Free.indent {indent : Text} (hi : ∀ c ∈ indent, c = ' ') (hc : ' ' ∉ cs ++ pairChars)
    (ht : Free cs t) : Free cs (indent ++ t) := by
  induction indent with
  | nil => exact ht
  | cons c indent ih =>
    obtain rfl : c = ' ' := hi c List.mem_cons_self
    exact (ih fun c hc => hi c (List.mem_cons_of_mem _ hc)).cons hc

/-- A separator that belongs to no pair keeps a list of free texts free. -/
theorem Free.join (hc : c ∉ cs ++ pairChars) (h : ∀ t ∈ ts, Free cs t) : Free cs (join [c] ts) := by
  induction ts with
  | nil => exact free_nil cs
  | cons t ts ih =>
    cases ts with
    | nil => exact h t List.mem_cons_self
    | cons u ts =>
      rw [join_cons_cons, List.append_assoc]
      exact (h t List.mem_cons_self).append_cons (ih fun v hv => h v (List.mem_cons_of_mem _ hv)) hc

end Text

/-! ## Names and keys -/

namespace RuleText

variable {c : Char} {t : Text}

/-- The characters that the language gives a meaning. -/
def marks : List Char :=
  ['\n', '\r', '\t', ' ', '\x7b', '\x7d', '[', ']', ',', ':', ';', '|', '"', '\'', '/', '*',
   '&', '#']

/-- Runs of code points without letters and numbers; all white space and all marks lie in them. -/
def unletteredRuns : List (Nat × Nat) :=
  [(0, 0x2F), (0x3A, 0x40), (0x5B, 0x60), (0x7B, 0xA9), (0x1680, 0x1680), (0x2000, 0x206F),
   (0x3000, 0x3004)]

/-- The runs have no letter and no number in them; the tables are compared run by run. -/
theorem not_isAlphanumeric (h : Text.inRuns unletteredRuns c.toNat = true) :
    Text.isAlphanumeric c = false := by
  have hall : Text.alphanumericRuns.all (fun r =>
      unletteredRuns.all fun g => r.2 < g.1 || g.2 < r.1) = true := by decide +kernel
  obtain ⟨g, hg, hc⟩ := List.any_eq_true.mp h
  refine List.any_eq_false.mpr fun r hr => ?_
  have hrg := List.all_eq_true.mp (List.all_eq_true.mp hall r hr) g hg
  simp only [Bool.or_eq_true, Bool.and_eq_true, decide_eq_true_eq] at hc hrg ⊢
  omega

/-- A name is read as written: none of its characters has a meaning in the language. -/
theorem not_mem_marks (h : isNameChar c = true) : c ∉ marks := by
  have hall : marks.all (fun c =>
      Text.inRuns unletteredRuns c.toNat && c != '_' && c != '-') = true := by decide
  intro hc
  have hm := List.all_eq_true.mp hall c hc
  simp only [Bool.and_eq_true, bne_iff_ne] at hm
  simp [isNameChar, not_isAlphanumeric hm.1.1, hm.1.2, hm.2] at h

/-- No character of a name is blank, so trimming leaves a name as it is. -/
theorem not_isBlank (h : isNameChar c = true) : Text.isBlank c = false := by
  by_contra hb
  rw [Bool.not_eq_false] at hb
  simp only [isNameChar, Bool.or_eq_true, beq_iff_eq] at h
  rcases h with (h | rfl) | rfl
  · have hr : Text.inRuns unletteredRuns c.toNat = true := by
      simp only [Text.isBlank, Bool.or_eq_true, Bool.and_eq_true, decide_eq_true_eq,
        beq_iff_eq] at hb
      simp only [Text.inRuns, unletteredRuns, List.any_cons, List.any_nil, Bool.or_eq_true,
        Bool.and_eq_true, decide_eq_true_eq]
      omega
    rw [not_isAlphanumeric hr] at h
    cases h
  · cases hb
  · cases hb

/-- The keys of options are names too. -/
theorem isNameChar_of_isKeyChar (h : isKeyChar c = true) : isNameChar c = true := by
  have ha (hc : c.isLower = true ∨ c.isDigit = true) : Text.isAlphanumeric c = true := by
    have hr : ∃ r ∈ [(0x30, 0x39), (0x61, 0x7A)], r.1 ≤ c.toNat ∧ c.toNat ≤ r.2 := by
      rcases hc with hc | hc
      · exact ⟨(0x61, 0x7A), by simp, by simpa [Char.isLower, UInt32.le_iff_toNat_le] using hc⟩
      · exact ⟨(0x30, 0x39), by simp, by simpa [Char.isDigit, UInt32.le_iff_toNat_le] using hc⟩
    obtain ⟨r, hr, hc⟩ := hr
    have hm : r ∈ Text.alphanumericRuns := by
      simp only [List.mem_cons, List.not_mem_nil, or_false] at hr
      rcases hr with rfl | rfl
      · exact List.mem_of_getElem? (i := 0) rfl
      · exact List.mem_of_getElem? (i := 2) rfl
    exact List.any_eq_true.mpr ⟨r, hm, by simpa using hc⟩
  simp only [isKeyChar, Bool.or_eq_true] at h
  simp only [isNameChar, Bool.or_eq_true]
  rcases h with ((h | h) | h) | h
  · exact .inl (.inl (ha (.inl h)))
  · exact .inl (.inl (ha (.inr h)))
  · exact .inl (.inr h)
  · exact .inr h

theorem all_isNameChar (h : t.all isKeyChar = true) : t.all isNameChar = true :=
  List.all_eq_true.mpr fun c hc => isNameChar_of_isKeyChar (List.all_eq_true.mp h c hc)

/-- A name can stand as the value of an option, whatever it is. -/
theorem plainOption_of_isNameChar (h : t.all isNameChar = true) : Text.PlainOption t := by
  have hs : ['\n', '\r', '\x7b', '\x7d', ',', '[', ']'] ++ Text.pairChars ⊆ marks := by decide
  exact Text.free_of_forall fun c hc hm => not_mem_marks (List.all_eq_true.mp h c hc) (hs hm)

theorem plain_of_isNameChar (h : t.all isNameChar = true) : Text.Plain t :=
  (plainOption_of_isNameChar h).mono (by simp)

theorem trimmed_of_isNameChar (h : t.all isNameChar = true) : Text.Trimmed t :=
  Text.trimmed_of_forall fun c hc => not_isBlank (List.all_eq_true.mp h c hc)

/-- No keyword begins behind a character of a name. -/
theorem not_boundsKeyword (h : isNameChar c = true) : boundsKeyword c = false := by
  have hm := not_mem_marks h
  simp only [marks, List.mem_cons, List.not_mem_nil, not_or] at hm
  simp [boundsKeyword, hm]

theorem isDigit_of_mem_ofNat {n : Nat} (h : c ∈ Text.ofNat n) : c.isDigit = true :=
  Nat.isDigit_of_mem_toDigits (by decide) (by decide) h

/-- A written number is made of characters that a name may have, its sign included. -/
theorem all_isNameChar_ofInt (n : Int) : (Text.ofInt n).all isNameChar = true := by
  have hd (n : Nat) : (Text.ofNat n).all isNameChar = true := by
    refine all_isNameChar (List.all_eq_true.mpr fun c hc => ?_)
    simp [isKeyChar, isDigit_of_mem_ofNat hc]
  cases n with
  | ofNat n => exact hd n
  | negSucc n =>
    rw [Text.ofInt, List.all_cons, hd, isNameChar_of_isKeyChar (by decide)]
    rfl

theorem toLower_of_isKeyChar (h : isKeyChar c = true) : c.toLower = c := by
  refine Char.toLower_eq_of_not_isUpper fun hu => ?_
  simp only [isKeyChar, Bool.or_eq_true, beq_iff_eq] at h
  rcases h with ((h | h) | rfl) | rfl
  · simp [Char.isUpper, Char.isLower, UInt32.le_iff_toNat_le] at h hu
    omega
  · simp [Char.isUpper, Char.isDigit, UInt32.le_iff_toNat_le] at h hu
    omega
  · cases hu
  · cases hu

end RuleText
end PageRules
