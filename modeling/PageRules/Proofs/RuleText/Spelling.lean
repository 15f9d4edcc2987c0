import Mathlib
import PageRules.Proofs.Hub.Search
import PageRules.Proofs.RuleText.Idempotence

/-!
# Spellings of line breaks

However the line breaks of a rule text are written, the text has the same form once they are unified
(`unified_respell`), and a text whose line breaks are in one form keeps it. So neither the spelling
of the line breaks nor a second decoding changes what a text compiles to (`compile_respelled`).
-/

namespace PageRules.RuleText

variable {spelling decoded t w : Text}

/-- The ways to write a line break beside the line feed. -/
def breakSpellings : List Text :=
  ["\r\n".toList, "\r".toList, "&#10;".toList, "&#13;".toList, "&#13;&#10;".toList]

/-- The text with each of its line feeds written in another way. -/
def respell (spelling t : Text) : Text := t.flatMap fun c => if c = '\n' then spelling else [c]

@[simp] theorem respell_nil (spelling : Text) : respell spelling [] = [] := rfl

@[simp] theorem respell_break (spelling t : Text) :
    respell spelling ('\n' :: t) = spelling ++ respell spelling t := rfl

theorem respell_cons {c : Char} (hc : c ≠ '\n') (spelling t : Text) :
    respell spelling (c :: t) = c :: respell spelling t := by
  rw [respell, List.flatMap_cons, if_neg hc]
  rfl

theorem not_mem_respell (h : '\n' ∉ spelling) (t : Text) : '\n' ∉ respell spelling t := by
  intro hm
  obtain ⟨c, -, hc⟩ := List.mem_flatMap.mp hm
  split at hc
  · exact h hc
  · rename_i hne
    exact hne (List.mem_singleton.mp hc).symm

/-! ## Decoding -/

/-- A spelling decodes to characters that are unified to one line feed, wherever it stands. -/
structure Spells (spelling decoded : Text) : Prop where
  ne_nil : spelling ≠ []
  /-- No reference goes on with what the spelling begins with. -/
  head : ∀ c ∈ spelling.head?, c ∉ ['#', '1', '0', '3', ';']
  decode : ∀ s, decodeBreaks (spelling ++ s) = decoded ++ decodeBreaks s
  unify : unifyBreaks decoded = ['\n']
  /-- A line feed behind it would be taken for a part of it, and none comes there. -/
  last : '\r' ∈ decoded.getLast? → '\n' ∉ decoded

theorem exists_spells (h : spelling ∈ breakSpellings) : ∃ decoded, Spells spelling decoded := by
  simp only [breakSpellings, List.mem_cons, List.not_mem_nil, or_false] at h
  rcases h with rfl | rfl | rfl | rfl | rfl
  · exact ⟨['\r', '\n'], by simp, by simp, fun _ => rfl, rfl, by simp⟩
  · exact ⟨['\r'], by simp, by simp, fun _ => rfl, rfl, by simp⟩
  · exact ⟨['\n'], by simp, by simp, fun _ => rfl, rfl, by simp⟩
  · exact ⟨['\r'], by simp, by simp, fun _ => rfl, rfl, by simp⟩
  · exact ⟨['\r', '\n'], by simp, by simp, fun _ => rfl, rfl, by simp⟩

namespace Spells

variable (h : Spells spelling decoded)
include h

/-- What may go on a reference and begins a text began it before its line breaks were written in
another way. -/
theorem prefix_of_prefix_respell (hw : w ⊆ ['#', '1', '0', '3', ';'])
    (hp : w <+: respell spelling t) : w <+: t := by
  induction t generalizing w with
  | nil => exact hp
  | cons c t ih =>
    by_cases hc : c = '\n'
    · obtain ⟨d, rest, hspelling⟩ := List.exists_cons_of_ne_nil h.ne_nil
      have hd : d ∉ w := fun hm => h.head d (by rw [hspelling]; rfl) (hw hm)
      rw [hc, respell_break, hspelling] at hp
      rw [eq_nil_of_prefix_cons hd hp]
      exact List.nil_prefix
    · rw [respell_cons hc] at hp
      rcases List.prefix_cons_iff.mp hp with rfl | ⟨w, rfl, hw'⟩
      · exact List.nil_prefix
      · rw [List.prefix_cons_inj]
        exact ih (List.subset_of_cons_subset hw) hw'

/-- Decoding leaves the text as it is but for the spellings, since none of them completes a
reference. -/
theorem decodeBreaks_respell (h10 : ¬ "&#10;".toList <:+: t) (h13 : ¬ "&#13;".toList <:+: t) :
    decodeBreaks (respell spelling t) = respell decoded t := by
  induction t with
  | nil => rfl
  | cons c t ih =>
    have ih := ih (fun hi => h10 (List.infix_cons hi)) fun hi => h13 (List.infix_cons hi)
    by_cases hc : c = '\n'
    · rw [hc, respell_break, respell_break, h.decode, ih]
    · have hno {d : Char} (hd : d = '0' ∨ d = '3') (hfree : ¬ ['&', '#', '1', d, ';'] <:+: c :: t)
          (rest : Text) (hamp : c = '&')
          (hrest : respell spelling t = '#' :: '1' :: d :: ';' :: rest) : False := by
        have hbegins : ['#', '1', d, ';'] <+: respell spelling t := ⟨rest, hrest.symm⟩
        have hwas : ['#', '1', d, ';'] <+: t := by
          rcases hd with rfl | rfl
          · exact h.prefix_of_prefix_respell (by decide) hbegins
          · exact h.prefix_of_prefix_respell (by decide) hbegins
        rw [hamp] at hfree
        exact hfree (List.prefix_cons_inj '&' |>.mpr hwas).isInfix
      rw [respell_cons hc, respell_cons hc, decodeBreaks, ih]
      · exact hno (.inl rfl) h10
      · exact hno (.inr rfl) h13

theorem unifyBreaks_respell (hr : '\r' ∉ t) : unifyBreaks (respell decoded t) = t := by
  induction t with
  | nil => rfl
  | cons c t ih =>
    have ih := ih (List.not_mem_of_not_mem_cons hr)
    by_cases hc : c = '\n'
    · have hseam : '\r' ∈ decoded.getLast? → '\n' ∉ (respell decoded t).head? := by
        intro hlast hn
        exact not_mem_respell (h.last hlast) t (List.mem_of_mem_head? hn)
      rw [hc, respell_break, unifyBreaks_append hseam, h.unify, ih]
      rfl
    · have hreturn : c ≠ '\r' := (List.ne_of_not_mem_cons hr).symm
      have hstep := unifyBreaks_append_cons hc hreturn [] (respell decoded t)
      rw [respell_cons hc]
      rw [ih] at hstep
      exact hstep

end Spells

/-- A text with line feeds only is the form of every text that writes them in another way. -/
theorem unified_respell (ht : LineFeeds t) (h : spelling ∈ breakSpellings) :
    unified (respell spelling t) = t := by
  obtain ⟨decoded, hs⟩ := exists_spells h
  rw [unified, hs.decodeBreaks_respell ht.no_feed_reference ht.no_return_reference,
    hs.unifyBreaks_respell ht.no_return]

/-! ## Compiling -/

/-- Only the form with unified line breaks matters to what a text compiles to. -/
theorem compile_congr {s : Text} (h : unified s = unified t) : compile s = compile t := by
  rw [compile, compile, normalize, normalize, h]

/-- A text compiles to the same scopes, page type and diagnostics however its line breaks are
written. The rules inside a page, whose line breaks were unified when they were taken from it,
compile to the same as the text of their element. -/
theorem compile_respelled :
    (∀ t, LineFeeds t → ∀ spelling ∈ breakSpellings, compile (respell spelling t) = compile t) ∧
      ∀ (d : Html.Document) (selector rules : Text), inlineRules? d selector = some rules →
        ∃ s e, Css.Selector.read? selector = some s ∧ d.elements.find? s.isMatch = some e ∧
          compile rules = compile e.content := by
  constructor
  · intro t ht spelling h
    have hself : unified t = t := ht.unified_eq
    apply compile_congr
    rw [unified_respell ht h, hself]
  · intro d selector rules hrules
    obtain ⟨s, e, hs, he, hunified, -⟩ := inlineRules?_eq_some_iff.mp hrules
    have hagain : unified rules = rules := by
      rw [← hunified]
      exact (lineFeeds_unified e.content).unified_eq
    refine ⟨s, e, hs, he, compile_congr ?_⟩
    rw [hagain, hunified]

/-- A comment over two lines and a section that is never closed. -/
def brokenText : Text :=
  "section: a .a \x7b /* b\n */ text: p [limit: 1]\n\x7d\n&#1\nsection: c .c \x7b".toList

/-- Rules inside a page, behind a script without a name. -/
def inlinePage : Html.Document :=
  let rules : Html.Tag :=
    { name := "script".toList, attributes := [{ name := "name".toList, value := ['r'] }] }
  { root := ⟨0, { name := "html".toList },
      [.element 1 { name := "script".toList } [.text "x".toList],
        .element 2 rules [.text "page-type: a&#13;&#10;&#1\r0;".toList]], []⟩ }

theorem compile_respelled_brokenText :
    LineFeeds brokenText ∧ "&#13;&#10;".toList ∈ breakSpellings ∧
      compile (respell "&#13;&#10;".toList brokenText) = compile brokenText ∧
      inlineRules? inlinePage "[name]".toList = some "page-type: a\n&#1\n0;".toList ∧
      ∃ s e, Css.Selector.read? "[name]".toList = some s ∧
        inlinePage.elements.find? s.isMatch = some e ∧
        compile "page-type: a\n&#1\n0;".toList = compile e.content := by
  have hfeeds : LineFeeds brokenText := by decide +kernel
  have hspelling : "&#13;&#10;".toList ∈ breakSpellings := by decide
  have hinline : inlineRules? inlinePage "[name]".toList =
      some "page-type: a\n&#1\n0;".toList := by cbv
  exact ⟨hfeeds, hspelling, compile_respelled.1 _ hfeeds _ hspelling, hinline,
    compile_respelled.2 _ _ _ hinline⟩

end PageRules.RuleText
