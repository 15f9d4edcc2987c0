import Mathlib
import PageRules.Proofs.Hub.Search
import PageRules.Proofs.Site

/-!
# Rules of a bare host for its "www" host

A bare host is tried under its name and its path. The "www" host in front of it is tried under both
as well, and under its own name and path before each (`rules_of_bareHost`). So whoever asks for the
rules of the "www" host meets every answer that is given for the bare one.
-/

namespace PageRules.Hub

section

variable {fetch : Text → Except FetchError (Option Text)} {addresses more : List Text}

theorem firstRules_of_holdsRules {address t : Text} (h : HoldsRules (fetch address) t) :
    firstRules (m := Id) fetch (address :: addresses) = some t := by
  obtain ⟨hanswer, hblank⟩ := h
  rw [firstRules, hanswer]
  exact if_neg hblank

theorem firstRules_of_not_holdsRules {address : Text} (h : ∀ t, ¬HoldsRules (fetch address) t) :
    firstRules (m := Id) fetch (address :: addresses) =
      firstRules (m := Id) fetch addresses := by
  rw [firstRules]
  rcases hanswer : fetch address with e | _ | t
  · rfl
  · rfl
  · have hblank : Text.trim t = [] := by
      by_contra hne
      exact h t ⟨hanswer, hne⟩
    exact if_pos hblank

/-- Where the answers depend on the address only, rules are found if an answer holds some. -/
theorem isSome_firstRules_iff :
    (firstRules (m := Id) fetch addresses).isSome ↔
      ∃ address ∈ addresses, ∃ t, HoldsRules (fetch address) t := by
  induction addresses with
  | nil =>
    simp only [List.not_mem_nil, false_and, exists_false, iff_false]
    exact Bool.false_ne_true
  | cons address rest ih =>
    rw [List.exists_mem_cons_iff, ← ih]
    by_cases hrules : ∃ t, HoldsRules (fetch address) t
    · obtain ⟨t, ht⟩ := hrules
      rw [firstRules_of_holdsRules ht]
      exact iff_of_true rfl (.inl ⟨t, ht⟩)
    · rw [firstRules_of_not_holdsRules (not_exists.mp hrules), or_iff_right hrules]

theorem isSome_firstRules_of_subset (h : addresses ⊆ more)
    (hfound : (firstRules (m := Id) fetch addresses).isSome) :
    (firstRules (m := Id) fetch more).isSome := by
  rw [isSome_firstRules_iff] at hfound ⊢
  obtain ⟨address, ha, ht⟩ := hfound
  exact ⟨address, h ha, ht⟩

end

/-- The candidates of a host are not empty and each is there once, the host itself first. A host
that a site has is without slashes. For such a host without "www" in front, the "www" host has all
its candidates in their order, and a fetcher whose answers depend on the address only finds rules
for the "www" host where it finds some for the bare one. -/
theorem rules_of_bareHost :
    (∀ host, [] ∉ candidates host ∧ (candidates host).Nodup ∧
      (host ≠ [] → (candidates host).head? = some host)) ∧
    (∀ site host, siteHost? site = some host → '/' ∉ host) ∧
    ∀ host, '/' ∉ host → ¬"www.".toList <+: host →
      (candidates host).Sublist (candidates ("www.".toList ++ host)) ∧
      ∀ fetch base, (rulesFor (m := Id) fetch base host).isSome →
        (rulesFor (m := Id) fetch base ("www.".toList ++ host)).isSome := by
  refine ⟨fun host => ?_, fun site host => slash_not_mem_of_siteHost?, fun host hslash hbare => ?_⟩
  · exact ⟨nil_not_mem_candidates host, nodup_candidates host, head?_candidates⟩
  · have hsub := candidates_sublist_www hslash hbare
    exact ⟨hsub, fun fetch base => isSome_firstRules_of_subset (hsub.map _).subset⟩

/-- A hub with one page, the rules of the path of the host "a.b". -/
def onePage (address : Text) : Except FetchError (Option Text) :=
  .ok (if address = "/b/a.dsl".toList then some ['x'] else none)

/-- The page of the path is found for the host and for its "www" host. -/
theorem rules_of_bareHost_onePage :
    siteHost? "A.b:84/x".toList = some "a.b".toList ∧
    candidates "www.a.b".toList =
      ["www.a.b".toList, "a.b".toList, "b/a/www".toList, "b/a".toList] ∧
    (rulesFor (m := Id) onePage ['/'] "www.a.b".toList).isSome ∧
    (candidates "a.b".toList).Sublist (candidates "www.a.b".toList) := by
  have hsite : siteHost? "A.b:84/x".toList = some "a.b".toList := by decide +kernel
  have hslash : '/' ∉ "a.b".toList := rules_of_bareHost.2.1 _ _ hsite
  have hbare : ¬"www.".toList <+: "a.b".toList := by decide
  obtain ⟨hsub, hfound⟩ := rules_of_bareHost.2.2 "a.b".toList hslash hbare
  have hpage : (rulesFor (m := Id) onePage ['/'] "a.b".toList).isSome := by decide +kernel
  exact ⟨hsite, by decide +kernel, hfound onePage ['/'] hpage, hsub⟩

end PageRules.Hub
