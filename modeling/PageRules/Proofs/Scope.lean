import Mathlib
import PageRules.Proofs.Glob.Places
import PageRules.Proofs.Glob.Read
import PageRules.Proofs.RuleText.RoundTrip
import PageRules.Proofs.RuleText.WellFormed
import PageRules.Proofs.Text.Bytes

/-!
# Scopes of patterns with a deep end

The scope of `P/**` matches what lies below the paths that the pattern `P` spells, and of these
paths themselves the one that is written like `P` (`matchesPath_append_catchAll`). So it covers all
that the scope of `P` matches where `P` has no special character, but not where `P` spells paths
that are written otherwise.
-/

namespace PageRules

/-- The tokens of the pattern lead from the front of the text to its end. -/
def Glob.Spells (g : Glob) (t : Text) : Prop :=
  (leadAll g.tokens (.start (Text.bytes t))).atEnd = true

namespace PathScope

variable {s d : PathScope} {pattern path : Text} {rules more : List Rule}

/-- How the scope of a pattern and `/**` behind it comes to match a path, where `s` is the scope of
the pattern. -/
inductive DeepEndCovers (s : PathScope) (path : Text) : Prop
  | catchAll (h : s.pattern = [])
  | bare (h : s.pattern = path)
  /-- The pattern ends in a deep token, and another one adds nothing. -/
  | same (h : Glob.EndsDeep s.pattern) (hm : s.glob.matchesPath path = true)
  /-- The path lies below one that the pattern spells. -/
  | below {q r : Text} (h : ¬ Glob.EndsDeep s.pattern) (hpath : path = q ++ '/' :: r)
      (hq : s.glob.Spells q)

theorem matchesPath_of_append (h : d.pattern = pattern ++ catchAllPattern) :
    d.matchesPath path = true ↔ pattern = [] ∨ pattern = path ∨ d.glob.matchesPath path = true := by
  have hbare : barePattern? d.pattern = some pattern := by
    rw [barePattern?, h, List.isSuffixOf?_eq_some_iff_append_eq]
  have hlone : d.pattern = catchAllPattern ↔ pattern = [] := by
    rw [h]
    exact List.append_left_eq_self
  rw [matchesPath, hbare, Bool.or_eq_true, Bool.or_eq_true, beq_iff_eq, hlone, Bool.or_eq_true,
    Bool.and_eq_true, beq_iff_eq, List.isEmpty_iff]
  constructor
  · rintro ((h | h) | h | h)
    · exact .inl h
    · exact .inr (.inr h)
    · exact .inr (.inl h)
    · exact .inl h.1
  · rintro (h | h | h)
    · exact .inl (.inl h)
    · exact .inr (.inl h)
    · exact .inl (.inr h)

/-- One more deep token leads to all that lies below what the tokens spell. -/
theorem matchesTokens_append_deepLast (g : Glob) :
    Glob.matchesTokens (g.tokens ++ [.deepLast]) (Text.bytes path) = true ↔
      ∃ q r, path = q ++ '/' :: r ∧ g.Spells q := by
  have hne : g.tokens ++ [.deepLast] ≠ [.deepFirst] := by
    intro h
    cases (List.append_inj' (h.trans (List.nil_append _).symm) rfl).2
  rw [Glob.matchesTokens_of_ne hne, Glob.atEnd_leadAll_deepLast]
  constructor
  · rintro ⟨q, r, hpath, hend⟩
    obtain ⟨u, v, rfl, rfl, rfl⟩ := Text.exists_of_bytes_eq (c := '/') (by decide) hpath
    exact ⟨u, v, rfl, hend⟩
  · rintro ⟨q, r, rfl, hq⟩
    exact ⟨Text.bytes q, Text.bytes r, Text.bytes_append .., hq⟩

theorem matchesPath_deepEnd (hs : PathScope.of pattern rules = .ok s)
    (hd : PathScope.of (pattern ++ catchAllPattern) more = .ok d) :
    d.matchesPath path = true ↔ s.DeepEndCovers path := by
  obtain ⟨hpattern, -⟩ := RuleText.of_eq_ok hs
  obtain ⟨hlong, -⟩ := RuleText.of_eq_ok hd
  have htokens : d.glob.tokens =
      if Glob.EndsDeep pattern then s.glob.tokens else s.glob.tokens ++ [.deepLast] := by
    have hread := Glob.read_append_catchAll s.glob.read_eq
    rw [show s.glob.pattern = pattern from hpattern, ← hlong] at hread
    exact Except.ok.inj (d.glob.read_eq.symm.trans hread)
  rw [matchesPath_of_append hlong, Glob.matchesPath, htokens, ← hpattern]
  constructor
  · rintro (h | h | h)
    · exact .catchAll h
    · exact .bare h
    · split at h
      · rename_i hend
        exact .same hend h
      · rename_i hend
        obtain ⟨q, r, hpath, hq⟩ := (matchesTokens_append_deepLast s.glob).mp h
        exact .below hend hpath hq
  · rintro (h | h | ⟨hend, h⟩ | ⟨hend, hpath, hq⟩)
    · exact .inl h
    · exact .inr (.inl h)
    · rw [if_pos hend]
      exact .inr (.inr h)
    · rw [if_neg hend]
      exact .inr (.inr ((matchesTokens_append_deepLast s.glob).mpr ⟨_, _, hpath, hq⟩))

/-- A pattern without special characters matches one path, which is written like it. -/
theorem eq_of_matchesPath_plain (hs : PathScope.of pattern rules = .ok s)
    (hplain : ∀ c ∈ pattern, c ∉ Glob.specials) (hp : s.matchesPath path = true) :
    pattern = path := by
  obtain ⟨hpattern, -⟩ := RuleText.of_eq_ok hs
  have hstar : '*' ∉ pattern := fun hm => hplain '*' hm (by decide)
  have hnot (p : Text) : p ++ catchAllPattern ≠ pattern := by
    rintro rfl
    exact hstar (List.mem_append_right _ (by decide))
  have hbare : barePattern? s.pattern = none := by
    rw [hpattern, barePattern?, Option.eq_none_iff_forall_ne_some]
    intro p hp
    exact hnot p (List.isSuffixOf?_eq_some_iff_append_eq.mp hp)
  have htokens : s.glob.tokens = pattern.map .literal := by
    have hread := s.glob.read_eq
    rw [show s.glob.pattern = pattern from hpattern, Glob.read_plain hplain] at hread
    exact (Except.ok.inj hread).symm
  have hne : pattern.map Glob.Token.literal ≠ [.deepFirst] := by
    intro h
    obtain ⟨c, -, hc⟩ := List.map_eq_singleton_iff.mp h
    cases hc
  have hlone : (s.pattern == catchAllPattern) = false := by
    rw [hpattern, beq_eq_false_iff_ne]
    exact fun h => hnot [] h.symm
  rw [matchesPath, hlone, hbare, Bool.false_or, Bool.or_false, Glob.matchesPath, htokens,
    Glob.matchesTokens_of_ne hne, Glob.leadAll_literals, Glob.atEnd_spell] at hp
  exact (Text.bytes_injective hp).symm

/-- The scope of a pattern and `/**` behind it matches the paths below those that the pattern
spells, and, of the paths that the scope of the pattern itself matches, those written like the
pattern: so all of them where the pattern has no special character. -/
theorem matchesPath_append_catchAll (hs : PathScope.of pattern rules = .ok s)
    (hd : PathScope.of (pattern ++ catchAllPattern) more = .ok d) (hp : s.matchesPath path = true) :
    (d.matchesPath path = true ↔ s.DeepEndCovers path) ∧
      ((∀ c ∈ pattern, c ∉ Glob.specials) → d.matchesPath path = true) := by
  refine ⟨matchesPath_deepEnd hs hd, fun hplain => ?_⟩
  rw [matchesPath_of_append (RuleText.of_eq_ok hd).1]
  exact .inr (.inl (eq_of_matchesPath_plain hs hplain hp))

/-- The scopes of a pattern with a star, alone and with a deep end. -/
def starScope : PathScope := ⟨⟨"/v*".toList, [.literal '/', .literal 'v', .run], by cbv⟩, []⟩

def deepStarScope : PathScope :=
  ⟨⟨"/v*/**".toList, [.literal '/', .literal 'v', .run, .deepLast], by cbv⟩, []⟩

/-- The path `/vod` is matched without the deep end alone, and what is below it with one. -/
theorem matchesPath_append_catchAll_starScope :
    PathScope.of starScope.pattern [] = .ok starScope ∧
      PathScope.of (starScope.pattern ++ catchAllPattern) [] = .ok deepStarScope ∧
      starScope.matchesPath "/vod".toList = true ∧ ¬ starScope.DeepEndCovers "/vod".toList ∧
      deepStarScope.matchesPath "/vod/1".toList = true := by
  have hs : PathScope.of starScope.pattern [] = .ok starScope := RuleText.pathScope_of
  have hd : PathScope.of (starScope.pattern ++ catchAllPattern) [] = .ok deepStarScope :=
    RuleText.pathScope_of (s := deepStarScope)
  have hp : starScope.matchesPath "/vod".toList = true := by decide +kernel
  refine ⟨hs, hd, hp, ?_, by decide +kernel⟩
  rw [← (matchesPath_append_catchAll hs hd hp).1]
  decide +kernel

end PathScope
end PageRules
