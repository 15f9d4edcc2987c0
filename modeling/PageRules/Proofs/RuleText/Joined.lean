import Mathlib
import PageRules.Proofs.RuleText.Normal
import PageRules.RuleText.Compile

/-!
# Normal forms of joined texts

Where a text closes its comments, the normal form of that text, a line feed and more text is the
normal forms of both with the line feed between them (`normalize_append_line`). A line of the second
text is numbered from the lines of the first (`lineOf_append_line`).
-/

namespace PageRules.RuleText

variable {s t : Text}

/-! ## Line breaks -/

/-- A reference that a character goes on begins with it. -/
theorem decodeBreaks_append_of_head {d : Char} (hd : d ∉ ['#', '1', '0', '3', ';']) (s t : Text) :
    decodeBreaks (s ++ d :: t) = decodeBreaks s ++ decodeBreaks (d :: t) := by
  fun_induction decodeBreaks s with
  | case1 rest ih => exact congrArg _ ih
  | case2 rest ih => exact congrArg _ ih
  | case3 c rest h10 h13 ih =>
    simp only [List.mem_cons, List.not_mem_nil, or_false, not_or] at hd
    have hshort (e : Char) (he : d ≠ e)
        (h : ∀ r, c = '&' → rest = '#' :: '1' :: e :: ';' :: r → False) (r : Text) :
        c = '&' → rest ++ d :: t = '#' :: '1' :: e :: ';' :: r → False := by
      intro hc hr
      -- a reference in front of the character is whole, since none of its letters is that one
      rcases rest with _ | ⟨_, _ | ⟨_, _ | ⟨_, _ | ⟨_, rest⟩⟩⟩⟩
      · simp_all
      · simp_all
      · simp_all
      · simp_all
      · cases hr
        exact h rest hc rfl
    rw [List.cons_append, decodeBreaks, ih, List.cons_append]
    · exact hshort '0' (by tauto) h10
    · exact hshort '3' (by tauto) h13
  | case4 => rfl

/-- No reference goes over a character that none is made of. -/
theorem decodeBreaks_append_cons {d : Char} (hd : d ∉ ['&', '#', '1', '0', '3', ';']) (s t : Text) :
    decodeBreaks (s ++ d :: t) = decodeBreaks s ++ d :: decodeBreaks t := by
  have hamp : d ≠ '&' := fun h => hd (by simp [h])
  have hfirst : decodeBreaks (d :: t) = d :: decodeBreaks t := by
    rw [decodeBreaks]
    · simp [hamp]
    · simp [hamp]
  rw [decodeBreaks_append_of_head (fun h => hd (List.mem_cons_of_mem _ h)), hfirst]

theorem decodeBreaks_append_line (s t : Text) :
    decodeBreaks (s ++ '\n' :: t) = decodeBreaks s ++ '\n' :: decodeBreaks t :=
  decodeBreaks_append_cons (by decide) s t

/-- Only the two characters of one line break are not told apart. -/
theorem unifyBreaks_append (h : '\r' ∈ s.getLast? → '\n' ∉ t.head?) :
    unifyBreaks (s ++ t) = unifyBreaks s ++ unifyBreaks t := by
  fun_induction unifyBreaks s with
  | case1 rest ih =>
    refine congrArg _ (ih fun hr => h ?_)
    rw [List.getLast?_cons_cons, List.getLast?_cons, Option.mem_def.mp hr]
    rfl
  | case2 rest hrest ih =>
    rw [List.cons_append, unifyBreaks, ih]
    · rfl
    · intro hr
      refine h ?_
      rw [List.getLast?_cons, Option.mem_def.mp hr]
      rfl
    · intro r hr
      cases rest with
      | nil =>
        rw [List.nil_append] at hr
        exact h rfl (by rw [hr]; rfl)
      | cons c rest =>
        cases hr
        exact hrest rest rfl
  | case3 c rest h1 h2 ih =>
    rw [List.cons_append, unifyBreaks, ih]
    · rfl
    · intro hr
      refine h ?_
      rw [List.getLast?_cons, Option.mem_def.mp hr]
      rfl
    · rintro _ rfl
      exact absurd rfl h2
    · exact h2
  | case4 => rfl

theorem unifyBreaks_append_cons {d : Char} (hn : d ≠ '\n') (hr : d ≠ '\r') (s t : Text) :
    unifyBreaks (s ++ d :: t) = unifyBreaks s ++ d :: unifyBreaks t := by
  have hfirst : unifyBreaks (d :: t) = d :: unifyBreaks t := by
    rw [unifyBreaks]
    · simp [hr]
    · exact hr
  rw [unifyBreaks_append (by simpa using fun _ => hn), hfirst]

/-- No line break goes over a character that none is made of. -/
theorem unified_append_cons {d : Char} (hd : d ∉ ['&', '#', '1', '0', '3', ';', '\n', '\r'])
    (s t : Text) : unified (s ++ d :: t) = unified s ++ d :: unified t := by
  have hcodes : d ∉ ['&', '#', '1', '0', '3', ';'] := fun h => hd (by simp_all)
  rw [unified, decodeBreaks_append_cons hcodes,
    unifyBreaks_append_cons (by rintro rfl; simp at hd) (by rintro rfl; simp at hd)]
  rfl

theorem unifyBreaks_append_line (h : '\r' ∉ s) (t : Text) :
    unifyBreaks (s ++ '\n' :: t) = s ++ '\n' :: unifyBreaks t := by
  rw [unifyBreaks_append (fun hr => absurd (List.mem_of_getLast? hr) h), unifyBreaks_eq_self h,
    unifyBreaks]
  · rintro _ ⟨⟩
  · rintro ⟨⟩

/-- Line feeds are the only line breaks, and no reference stands for one. -/
@[mk_iff] structure LineFeeds (raw : Text) : Prop where
  no_return : '\r' ∉ raw
  no_feed_reference : ¬ "&#10;".toList <:+: raw
  no_return_reference : ¬ "&#13;".toList <:+: raw

instance (raw : Text) : Decidable (LineFeeds raw) := decidable_of_iff _ (lineFeeds_iff raw).symm

theorem decodeBreaks_eq_self_of_not_infix (h10 : ¬ "&#10;".toList <:+: t)
    (h13 : ¬ "&#13;".toList <:+: t) : decodeBreaks t = t := by
  fun_induction decodeBreaks t with
  | case1 rest => exact absurd (List.prefix_append "&#10;".toList rest).isInfix h10
  | case2 rest => exact absurd (List.prefix_append "&#13;".toList rest).isInfix h13
  | case3 c rest _ _ ih =>
    rw [ih (fun h => h10 (List.infix_cons h)) fun h => h13 (List.infix_cons h)]
  | case4 => rfl

theorem LineFeeds.unified_eq (h : LineFeeds t) : unified t = t := by
  rw [unified, decodeBreaks_eq_self_of_not_infix h.no_feed_reference h.no_return_reference,
    unifyBreaks_eq_self h.no_return]

theorem LineFeeds.unified_append_line (h : LineFeeds s) (t : Text) :
    unified (s ++ '\n' :: t) = s ++ '\n' :: unified t := by
  rw [unified, decodeBreaks_append_line,
    decodeBreaks_eq_self_of_not_infix h.no_feed_reference h.no_return_reference,
    unifyBreaks_append_line h.no_return]
  rfl

/-! ## Comments -/

namespace Place

/-- The same place `n` lines further down. -/
def later (n : Nat) (p : Place) : Place := { p with number := p.number + n }

theorem inHeader_later (n : Nat) (p : Place) : (p.later n).inHeader = p.inHeader := rfl

theorem push_later (n : Nat) (p : Place) (c : Char) : (p.later n).push c = (p.push c).later n := by
  unfold push
  split
  · rw [later, later, Nat.add_right_comm]
  · rfl

end Place

namespace Normal

/-- The same normal form `n` lines further down. -/
def later (n : Nat) (norm : Normal) : Normal := ⟨norm.text, norm.unclosed.map (· + n)⟩

@[simp] theorem unclosed_cons (c : Char) (n : Normal) : (cons c n).unclosed = n.unclosed := rfl

@[simp] theorem text_cons (c : Char) (n : Normal) : (cons c n).text = c :: n.text := rfl

theorem number_push (place : Place) (c : Char) (s : Text) :
    (place.push c).number + s.count '\n' = place.number + (c :: s).count '\n' := by
  unfold Place.push
  rw [List.count_cons]
  split <;> simp only <;> omega

theorem count_blank_cons (c : Char) (s : Text) :
    (blank c :: s).count '\n' = (c :: s).count '\n' := by
  unfold blank
  split
  · rename_i h
    rw [eq_of_beq h]
  · rename_i h
    rw [List.count_cons_of_ne (by decide), List.count_cons_of_ne (by simpa using h)]

/-- Stripping goes on behind a text from where it came to, since no comment begins or ends in the
middle of the pair that would do so. -/
theorem strip_append_cons {c : Char} (hs : c ≠ '*') (hd : c ≠ '/') (place : Place)
    (opened : Option Nat) (s t : Text) :
    ∃ place', place'.number = place.number + s.count '\n' ∧
      strip place opened (s ++ c :: t) =
        prepend (strip place opened s).text
          (strip place' (strip place opened s).unclosed (c :: t)) := by
  fun_induction strip place opened s with
  | case1 place opened => exact ⟨place, rfl, rfl⟩
  | case2 place n rest ih =>
    obtain ⟨place', hnumber, h⟩ := ih
    refine ⟨place', by rw [hnumber, number_push, number_push]; rfl, ?_⟩
    rw [List.cons_append, List.cons_append, strip, h]
    rfl
  | case3 place n d rest hp ih =>
    obtain ⟨place', hnumber, h⟩ := ih
    refine ⟨place', by rw [hnumber, number_push, count_blank_cons], ?_⟩
    rw [List.cons_append, strip, h]
    · rfl
    · rintro r rfl hr
      cases rest with
      | nil => exact hd (List.cons.inj hr).1
      | cons e rest =>
        cases hr
        exact hp rest rfl rfl
  | case4 place rest hp ih =>
    obtain ⟨place', hnumber, h⟩ := ih
    refine ⟨place', by rw [hnumber, number_push, number_push], ?_⟩
    rw [List.cons_append, List.cons_append, strip_pair hp, h]
    rfl
  | case5 place rest hp ih =>
    obtain ⟨place', hnumber, h⟩ := ih
    refine ⟨place', by rw [hnumber, number_push, number_push]; rfl, ?_⟩
    rw [List.cons_append, List.cons_append, strip, if_neg hp, h]
    rfl
  | case6 place d rest hp ih =>
    obtain ⟨place', hnumber, h⟩ := ih
    refine ⟨place', by rw [hnumber, number_push], ?_⟩
    rw [List.cons_append, strip_cons, h]
    · rfl
    · rintro rfl hr
      cases rest with
      | nil => exact hs (Option.some.inj hr)
      | cons e rest =>
        cases Option.some.inj hr
        exact hp rest rfl rfl

/-- Where a text ends in a character that closes no comment, its comments are closed before. -/
theorem strip_concat {c : Char} (hs : c ≠ '*') (hd : c ≠ '/') {place : Place} {opened : Option Nat}
    {s : Text} (h : (strip place opened (s ++ [c])).unclosed = none) :
    (strip place opened s).unclosed = none ∧
      (strip place opened (s ++ [c])).text = (strip place opened s).text ++ [c] := by
  obtain ⟨place', -, heq⟩ := strip_append_cons hs hd place opened s []
  rw [heq, prepend_eq] at h ⊢
  cases hopened : (strip place opened s).unclosed with
  | none =>
    rw [strip_cons place' fun hc => absurd hc hd]
    exact ⟨rfl, rfl⟩
  | some n =>
    rw [hopened, strip] at h
    · cases h
    · rintro r hc -
      exact hs hc

/-- Stripping goes on from the line feed where a text closes its comments. -/
theorem strip_append_line {place : Place} {opened : Option Nat} {s : Text}
    (h : (strip place opened s).unclosed = none) (t : Text) :
    strip place opened (s ++ '\n' :: t) =
      prepend ((strip place opened s).text ++ ['\n'])
        (strip ⟨[], place.number + s.count '\n' + 1⟩ none t) := by
  obtain ⟨place', hnumber, heq⟩ :=
    strip_append_cons (c := '\n') (by decide) (by decide) place opened s t
  rw [heq, h, strip_cons place' (by rintro ⟨⟩), ← hnumber, prepend_eq, prepend_eq,
    List.append_assoc]
  rfl

/-- Stripping keeps the number of line feeds. -/
theorem count_strip (place : Place) (opened : Option Nat) (t : Text) :
    (strip place opened t).text.count '\n' = t.count '\n' := by
  fun_induction strip place opened t with
  | case1 => rfl
  | case2 => simp [*]
  | case3 place n c rest _ ih =>
    have hb := count_blank_cons c (strip (place.push (blank c)) (some n) rest).text
    rw [text_cons, hb, List.count_cons, ih, List.count_cons]
  | case4 => simp [*]
  | case5 => simp [*]
  | case6 place c rest _ ih => rw [text_cons, List.count_cons, ih, List.count_cons]

/-- The number of the line at hand says nothing but where an open comment begins. -/
theorem strip_later (n : Nat) (place : Place) (opened : Option Nat) (t : Text) :
    strip (place.later n) (opened.map (· + n)) t = (strip place opened t).later n := by
  fun_induction strip place opened t with
  | case1 => rfl
  | case2 place k rest ih =>
    rw [Option.map_some, strip, Place.push_later, Place.push_later]
    exact congrArg (fun n => cons ' ' (cons ' ' n)) ih
  | case3 place k c rest hc ih =>
    rw [Option.map_some, strip, Place.push_later]
    · exact congrArg (cons (blank c)) ih
    · exact hc
  | case4 place rest hp ih =>
    rw [Option.map_none, strip_pair ((Place.inHeader_later n place).trans hp), Place.push_later,
      Place.push_later]
    exact congrArg (fun n => cons '/' (cons '*' n)) ih
  | case5 place rest hp ih =>
    rw [Option.map_none, strip, Place.inHeader_later, if_neg hp, Place.push_later, Place.push_later]
    exact congrArg (fun n => cons ' ' (cons ' ' n)) ih
  | case6 place c rest hc ih =>
    rw [Option.map_none, strip_cons, Place.push_later]
    · exact congrArg (cons c) ih
    · rintro rfl hs
      obtain ⟨r, rfl⟩ := List.head?_eq_some_iff.mp hs
      exact hc r rfl rfl

end Normal

theorem count_normalize (raw : Text) :
    (normalize raw).text.count '\n' = (unified raw).count '\n' := Normal.count_strip ..

/-- The number of the lines of a text. -/
def lineCount (t : Text) : Nat := t.count '\n' + 1

/-- The same, where the text is one whose line breaks are in one form. -/
theorem normalize_of_unified {raw u : Text} (hu : unified raw = u ++ '\n' :: unified t)
    (h : (Normal.strip {} none u).unclosed = none) :
    normalize raw =
      ((normalize t).later (lineCount u)).prepend ((Normal.strip {} none u).text ++ ['\n']) := by
  have hnumber : (⟨[], ({} : Place).number + u.count '\n' + 1⟩ : Place) =
      ({} : Place).later (lineCount u) := by
    rw [Place.later, lineCount, Nat.add_assoc]
  rw [normalize, hu, Normal.strip_append_line h, hnumber]
  exact congrArg _ (Normal.strip_later (lineCount u) {} none (unified t))

/-- A text that closes its comments does not change the normal form of the lines after it. -/
theorem normalize_append_line (hs : LineFeeds s) (h : (normalize s).unclosed = none) (t : Text) :
    normalize (s ++ '\n' :: t) =
      ((normalize t).later (lineCount s)).prepend ((normalize s).text ++ ['\n']) := by
  have hself : normalize s = Normal.strip {} none s := by rw [normalize, hs.unified_eq]
  rw [hself] at h ⊢
  exact normalize_of_unified (hs.unified_append_line t) h

/-! ## Texts without comments -/

theorem Normal.strip_eq_self (h : ¬ Text.HasPair '/' '*' t) (place : Place) :
    strip place none t = ⟨t, none⟩ := by
  induction t generalizing place with
  | nil => rfl
  | cons c t ih =>
    rw [Text.hasPair_cons, not_or] at h
    rw [strip_cons place fun hc hs => h.1 ⟨hc, hs⟩, ih h.2]
    rfl

theorem lineFeeds_of_free (h : Text.Free ['\r'] t) : LineFeeds t := by
  have hpair {r : Text} (hr : '&' :: '#' :: r <:+: t) : False :=
    h.no_reference ((List.prefix_append ['&', '#'] r).isInfix.trans hr)
  exact ⟨h.not_mem _ List.mem_cons_self, hpair, hpair⟩

theorem normalize_of_free (h : Text.Free ['\r'] t) : normalize t = ⟨t, none⟩ := by
  rw [normalize, (lineFeeds_of_free h).unified_eq, Normal.strip_eq_self h.no_comment]

/-! ## Line numbers -/

/-- The lines of a text count the same, whatever comes after it. -/
theorem lineOf_append_of_le {pos : Nat} (h : pos ≤ s.length) (t : Text) :
    lineOf (s ++ t) pos = lineOf s pos := by
  rw [lineOf, lineOf, List.take_append_of_le_length h]

theorem lineOf_append_line (s t : Text) (pos : Nat) :
    lineOf (s ++ '\n' :: t) (pos + (s.length + 1)) = lineOf t pos + lineCount s := by
  have htake : (s ++ '\n' :: t).take (pos + (s.length + 1)) = s ++ '\n' :: t.take pos := by
    rw [Nat.add_comm, Nat.add_assoc, Nat.add_comm 1, List.take_length_add_append]
    rfl
  rw [lineOf, htake, List.count_append, List.count_cons_self, lineOf, lineCount]
  omega

end PageRules.RuleText
