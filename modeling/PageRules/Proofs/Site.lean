import Mathlib
import PageRules.Proofs.Url.Sound
import PageRules.Site

/-!
# Hosts of sites

A site that is written with a scheme has the host that its URL names. Where it reads as no URL, or
as one without a host, what stands before its first slash is taken for a bare host. That is the
scheme with its colon, so the scheme comes out as the host (`siteHost?_schemed`).
-/

namespace PageRules

/-- A letter, and then letters, digits and the three other characters that a scheme may hold. -/
structure Url.IsScheme (t : Text) : Prop where
  head : ∃ c ∈ t.head?, c.isAlpha = true
  chars : ∀ c ∈ t, isSchemeChar c = true

namespace Url.IsScheme

variable {scheme : Text} (h : IsScheme scheme)
include h

theorem not_mem {d : Char} (hd : isSchemeChar d = false) : d ∉ scheme := by
  intro hm
  rw [h.chars d hm] at hd
  cases hd

theorem ne_nil : scheme ≠ [] := by
  rintro rfl
  obtain ⟨c, hc, -⟩ := h.head
  cases hc

theorem trim_append (rest : Text) :
    Text.trim (scheme ++ "://".toList ++ rest) = scheme ++ "://".toList ++ Text.trimEnd rest := by
  have hstart : Text.trimStart (scheme ++ "://".toList ++ rest) =
      scheme ++ "://".toList ++ rest := by
    rw [Text.trimStart_eq_self_iff, List.append_assoc, List.head?_append_of_ne_nil _ h.ne_nil]
    exact fun c hc => (isBlank_of_isSchemeChar (h.chars c (List.mem_of_head? hc))).1
  have hend := Text.trimEnd_append_cons (c := '/') rfl (scheme ++ [':', '/']) rest
  rw [Text.trim, hstart]
  simpa using hend

/-- The part of the text that is taken for a bare host is the scheme with its colon. -/
theorem takeWhile_eq (rest : Text) :
    (scheme ++ "://".toList ++ rest).takeWhile (fun c => c != '/' && c != '?' && c != '#') =
      scheme ++ [':'] := by
  have hstays : ∀ c ∈ scheme ++ [':'], (c != '/' && c != '?' && c != '#') = true := by
    intro c hc
    have hne {d : Char} (hd : isSchemeChar d = false) (hcolon : d ≠ ':') : c ≠ d := by
      rintro rfl
      rcases List.mem_append.mp hc with hc | hc
      · exact h.not_mem hd hc
      · exact hcolon (List.mem_singleton.mp hc)
    have hslash := hne (d := '/') rfl (by decide)
    have hquery := hne (d := '?') rfl (by decide)
    have hfragment := hne (d := '#') rfl (by decide)
    simp [hslash, hquery, hfragment]
  have hsplit : scheme ++ "://".toList ++ rest = scheme ++ [':'] ++ ('/' :: '/' :: rest) := by simp
  rw [hsplit, List.takeWhile_append_of_pos hstays]
  simp

end Url.IsScheme

/-! ## Slashes -/

theorem subset_withoutPort (t : Text) : withoutPort t ⊆ t := by
  unfold withoutPort
  split
  · rename_i digits host hsplit
    obtain ⟨colon, -, hrev, -⟩ := Text.splitOnce_eq_some hsplit
    split
    · intro c hc
      rw [← List.mem_reverse, hrev]
      exact List.mem_append_right _ (List.mem_cons_of_mem _ (List.mem_reverse.mp hc))
    · exact List.Subset.refl _
  · exact List.Subset.refl _

/-- A host has no slash. -/
theorem slash_not_mem_of_siteHost? {site host : Text} (h : siteHost? site = some host) :
    '/' ∉ host := by
  have hbare : '/' ∉ withoutPort
      ((Text.trim site).takeWhile fun c => c != '/' && c != '?' && c != '#') := by
    intro hm
    exact absurd (List.mem_takeWhile_imp (subset_withoutPort _ hm)) (by decide)
  have hurl (url : Url) (hread : Url.read (Text.trim site) = .ok url) :
      ∀ name ∈ url.hostText?, '/' ∉ name := by
    intro name hname
    obtain ⟨a, ha, hname⟩ := Option.bind_eq_some_iff.mp hname
    obtain ⟨written, hw, hname⟩ := Option.bind_eq_some_iff.mp hname
    cases hname
    exact (((Url.sound_of_read hread).authority a ha).host written hw).no_slash
  unfold siteHost? at h
  dsimp only at h
  split at h
  · rename_i name hname
    cases h
    split at hname
    · rename_i url hread
      exact fun hm => hurl url hread name hname (Text.mem_of_mem_lower rfl hm)
    · cases hname
  · split at h
    · cases h
    · cases h
      exact fun hm => hbare (Text.mem_of_mem_lower rfl hm)

/-! ## Sites with a scheme -/

/-- A colon at the end is taken for one in front of a number. -/
theorem withoutPort_colon (t : Text) : withoutPort (t ++ [':']) = t := by
  have hrev : (t ++ [':']).reverse = [] ++ ':' :: t.reverse := by simp
  rw [withoutPort, hrev, Text.splitOnce_append (by simp) (by simp)]
  simp

/-- A site with a scheme has the host of its URL, in lower case. If it reads as no URL, or as one
without a host, its host is the scheme. -/
theorem siteHost?_schemed {scheme rest : Text} (h : Url.IsScheme scheme) :
    (∀ url host, Url.read (Text.trim (scheme ++ "://".toList ++ rest)) = .ok url →
      url.hostText? = some host →
      siteHost? (scheme ++ "://".toList ++ rest) = some (Text.lower host)) ∧
    ((∀ url, Url.read (Text.trim (scheme ++ "://".toList ++ rest)) = .ok url →
      url.hostText? = none) →
      siteHost? (scheme ++ "://".toList ++ rest) = some (Text.lower scheme)) := by
  constructor
  · intro url host hread hhost
    unfold siteHost?
    simp only [hread, hhost]
  · intro hnone
    have hbare : siteHost? (scheme ++ "://".toList ++ rest) =
        let host := withoutPort ((Text.trim (scheme ++ "://".toList ++ rest)).takeWhile
          fun c => c != '/' && c != '?' && c != '#')
        if host = [] then none else some (Text.lower host) := by
      unfold siteHost?
      cases hread : Url.read (Text.trim (scheme ++ "://".toList ++ rest)) with
      | error e => simp only [hread]
      | ok url => simp only [hread, hnone url hread]
    rw [hbare, h.trim_append]
    dsimp only
    rw [h.takeWhile_eq, withoutPort_colon, if_neg h.ne_nil]

/-- What follows the slashes of a site with a host and a port. -/
def portedRest : Text := "A.b:84/x".toList

def portedUrl : Url where
  scheme := "hub".toList
  authority := some { host := some (.domain "A.b".toList), portNumber := some 84 }
  path := .segments [['x']]

/-- What follows the slashes of a site whose port is too large a number. -/
def largePortRest : Text := "a.b:99999/x".toList

/-- The first site has its host, and the second its scheme for one. -/
theorem siteHost?_schemed_ports :
    Url.IsScheme "hub".toList ∧
    siteHost? ("hub".toList ++ "://".toList ++ portedRest) = some "a.b".toList ∧
    siteHost? ("hub".toList ++ "://".toList ++ largePortRest) = some "hub".toList := by
  have hscheme : Url.IsScheme "hub".toList := ⟨⟨'h', rfl, rfl⟩, by simp [Url.isSchemeChar]⟩
  refine ⟨hscheme, ?_, ?_⟩
  · have hread : Url.read (Text.trim ("hub".toList ++ "://".toList ++ portedRest)) =
        .ok portedUrl := by decide +kernel
    have hlower : some (Text.lower "A.b".toList) = some "a.b".toList := by decide
    exact ((siteHost?_schemed hscheme).1 portedUrl "A.b".toList hread rfl).trans hlower
  · have hread : Url.read (Text.trim ("hub".toList ++ "://".toList ++ largePortRest)) =
        .error .invalidPort := by decide +kernel
    have hnone (url : Url) (hurl : Url.read (Text.trim ("hub".toList ++ "://".toList ++
        largePortRest)) = .ok url) : url.hostText? = none := by
      rw [hread] at hurl
      cases hurl
    have hlower : some (Text.lower "hub".toList) = some "hub".toList := by decide
    exact ((siteHost?_schemed hscheme).2 hnone).trans hlower

end PageRules
