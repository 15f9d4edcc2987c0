import Mathlib
import PageRules.Proofs.RuleText.Comment

/-!
# Normal forms of normal forms

A text whose line breaks are in one form has line feeds only (`lineFeeds_unified`), and blanking its
comments brings neither a line break nor a reference nor a comment into it: whatever opens a comment
in what is left is in the header of a path, as it was before. So a normal form is its own normal
form (`normalize_normalize`).
-/

namespace PageRules.RuleText

variable {t w : Text}

/-! ## Line breaks -/

theorem eq_nil_of_prefix_cons {c : Char} (hc : c ∉ w) (h : w <+: c :: t) : w = [] := by
  rcases List.prefix_cons_iff.mp h with rfl | ⟨w, rfl, -⟩
  · rfl
  · exact absurd List.mem_cons_self hc

/-- What a text begins with once its references are decoded, it began with before, if that holds
no line break. -/
theorem prefix_of_prefix_decodeBreaks (hn : '\n' ∉ w) (hr : '\r' ∉ w) (h : w <+: decodeBreaks t) :
    w <+: t := by
  fun_induction decodeBreaks t generalizing w with
  | case1 rest =>
    rw [eq_nil_of_prefix_cons hn h]
    exact List.nil_prefix
  | case2 rest =>
    rw [eq_nil_of_prefix_cons hr h]
    exact List.nil_prefix
  | case3 c rest _ _ ih =>
    rcases List.prefix_cons_iff.mp h with rfl | ⟨w, rfl, hw⟩
    · exact List.nil_prefix
    · rw [List.prefix_cons_inj]
      exact ih (List.not_mem_of_not_mem_cons hn) (List.not_mem_of_not_mem_cons hr) hw
  | case4 => exact h

theorem prefix_of_prefix_unifyBreaks (hn : '\n' ∉ w) (h : w <+: unifyBreaks t) : w <+: t := by
  fun_induction unifyBreaks t generalizing w with
  | case1 rest =>
    rw [eq_nil_of_prefix_cons hn h]
    exact List.nil_prefix
  | case2 rest =>
    rw [eq_nil_of_prefix_cons hn h]
    exact List.nil_prefix
  | case3 c rest _ _ ih =>
    rcases List.prefix_cons_iff.mp h with rfl | ⟨w, rfl, hw⟩
    · exact List.nil_prefix
    · rw [List.prefix_cons_inj]
      exact ih (List.not_mem_of_not_mem_cons hn) hw
  | case4 => exact h

/-- A decoded text holds no reference that would be decoded: the characters of one would stand side
by side in the text before. -/
theorem not_infix_decodeBreaks {d : Char} (hd : d = '0' ∨ d = '3') (t : Text) :
    ¬ ['&', '#', '1', d, ';'] <:+: decodeBreaks t := by
  fun_induction decodeBreaks t with
  | case1 rest ih =>
    rw [List.infix_cons_iff, List.cons_prefix_cons]
    rintro (⟨h, -⟩ | h)
    · exact absurd h (by decide)
    · exact ih h
  | case2 rest ih =>
    rw [List.infix_cons_iff, List.cons_prefix_cons]
    rintro (⟨h, -⟩ | h)
    · exact absurd h (by decide)
    · exact ih h
  | case3 c rest h10 h13 ih =>
    rw [List.infix_cons_iff, List.cons_prefix_cons]
    rintro (⟨rfl, h⟩ | h)
    · have hfree : '\n' ∉ ['#', '1', d, ';'] ∧ '\r' ∉ ['#', '1', d, ';'] := by
        rcases hd with rfl | rfl
        · decide
        · decide
      obtain ⟨r, rfl⟩ := prefix_of_prefix_decodeBreaks hfree.1 hfree.2 h
      rcases hd with rfl | rfl
      · exact h10 r rfl rfl
      · exact h13 r rfl rfl
    · exact ih h
  | case4 => exact fun h => by cases List.eq_nil_of_infix_nil h

theorem infix_of_infix_unifyBreaks (hn : '\n' ∉ w) (h : w <:+: unifyBreaks t) : w <:+: t := by
  fun_induction unifyBreaks t with
  | case1 rest ih =>
    rcases List.infix_cons_iff.mp h with h | h
    · rw [eq_nil_of_prefix_cons hn h]
      exact List.nil_infix
    · exact List.infix_cons (List.infix_cons (ih h))
  | case2 rest _ ih =>
    rcases List.infix_cons_iff.mp h with h | h
    · rw [eq_nil_of_prefix_cons hn h]
      exact List.nil_infix
    · exact List.infix_cons (ih h)
  | case3 c rest hcrlf hcr ih =>
    rcases List.infix_cons_iff.mp h with h | h
    · refine (prefix_of_prefix_unifyBreaks (t := c :: rest) hn ?_).isInfix
      rwa [unifyBreaks]
      · exact hcrlf
      · exact hcr
    · exact List.infix_cons (ih h)
  | case4 => exact h

theorem return_not_mem_unifyBreaks (t : Text) : '\r' ∉ unifyBreaks t := by
  fun_induction unifyBreaks t with
  | case1 rest ih => simpa using ih
  | case2 rest _ ih => simpa using ih
  | case3 c rest _ hc ih => simpa using ⟨fun h => hc h.symm, ih⟩
  | case4 => exact List.not_mem_nil

/-- A text with its line breaks in one form has line feeds only. -/
theorem lineFeeds_unified (raw : Text) : LineFeeds (unified raw) where
  no_return := return_not_mem_unifyBreaks _
  no_feed_reference h :=
    not_infix_decodeBreaks (.inl rfl) raw (infix_of_infix_unifyBreaks (by decide) h)
  no_return_reference h :=
    not_infix_decodeBreaks (.inr rfl) raw (infix_of_infix_unifyBreaks (by decide) h)

/-! ## Blanking -/

theorem infix_of_infix_blanked {cs : List Comment} (hs : ' ' ∉ w) (hn : '\n' ∉ w)
    (h : w <:+: blanked cs t) : w <:+: t := by
  obtain ⟨k, hk, h⟩ := List.infix_iff_getElem?.mp h
  rw [length_blanked] at hk
  refine List.infix_iff_getElem?.mpr ⟨k, hk, fun i hi => ?_⟩
  refine (getElem?_of_blanked ?_ ?_ (h i hi)).1
  · exact fun hc => hs (hc ▸ List.getElem_mem hi)
  · exact fun hc => hn (hc ▸ List.getElem_mem hi)

theorem LineFeeds.blanked (h : LineFeeds t) (cs : List Comment) : LineFeeds (blanked cs t) where
  no_return hm := by
    obtain ⟨p, hp⟩ := List.mem_iff_getElem?.mp hm
    exact h.no_return (List.mem_of_getElem? (getElem?_of_blanked (by decide) (by decide) hp).1)
  no_feed_reference hi := h.no_feed_reference (infix_of_infix_blanked (by decide) (by decide) hi)
  no_return_reference hi :=
    h.no_return_reference (infix_of_infix_blanked (by decide) (by decide) hi)

theorem blanked_nil (t : Text) : blanked [] t = t := by
  apply List.ext_getElem?
  intro p
  rw [getElem?_blanked]
  simp

/-- Once its comments are blanked, a text has none: a pair that is left and opens a comment would
open one of those that are blanked. -/
theorem AreComments.blanked {cs : List Comment} (h : AreComments t cs) :
    AreComments (blanked cs t) [] where
  ordered := .nil
  starts p := by
    refine iff_of_false (by simp) fun ho => ?_
    obtain ⟨hslash, hclear⟩ := getElem?_of_blanked (by decide) (by decide) ho.pair.1
    obtain ⟨hstar, -⟩ := getElem?_of_blanked (by decide) (by decide) ho.pair.2
    have hopens : Opens t cs p := by
      refine ⟨⟨hslash, hstar⟩, fun c hc hin => ?_, ?_⟩
      · exact hclear c hc (Comment.covers_iff.mpr ⟨hin.1.le, hin.2⟩)
      · have := ho.no_header
        rwa [blanked_nil] at this
    obtain ⟨c, hc, rfl⟩ := (h.starts p).mpr hopens
    exact hclear c hc (Comment.covers_iff.mpr ⟨le_rfl, h.start_lt_stop hc⟩)
  closes := by simp

/-- A normal form is its own normal form, and has no comment that is not closed. -/
theorem normalize_normalize (raw : Text) :
    normalize (normalize raw).text = ⟨(normalize raw).text, none⟩ := by
  obtain ⟨cs, hcs, htext, -⟩ := normalize_blanks raw
  rw [htext]
  have hself : unified (blanked cs (unified raw)) = blanked cs (unified raw) :=
    ((lineFeeds_unified raw).blanked cs).unified_eq
  obtain ⟨ds, hds, hagain, hline⟩ := normalize_blanks (blanked cs (unified raw))
  rw [hself] at hds hagain hline
  obtain rfl : ds = [] := hds.unique hcs.blanked
  have hunclosed : (normalize (blanked cs (unified raw))).unclosed = none := by
    refine Option.eq_none_iff_forall_ne_some.mpr fun n hn => ?_
    obtain ⟨c, hc, -⟩ := (hline n).mp hn
    cases hc
  rw [blanked_nil] at hagain
  exact congrArg₂ Normal.mk hagain hunclosed

end PageRules.RuleText
