import Mathlib
import PageRules.Proofs.Text.Solid
import PageRules.Source

/-! # Names and addresses on a hub -/

namespace PageRules.Hub

open Text (splitOn)

variable {host : Text}

theorem nodup_eraseDups {α : Type} [BEq α] [LawfulBEq α] : (l : List α) → l.eraseDups.Nodup
  | [] => List.nodup_nil
  | a :: l => by
    rw [List.eraseDups_cons, List.nodup_cons, List.mem_eraseDups]
    exact ⟨by simp, nodup_eraseDups _⟩
termination_by l => l.length
decreasing_by exact Nat.lt_succ_of_le (List.length_filter_le ..)

theorem eraseDups_filter {α : Type} [BEq α] [LawfulBEq α] (p : α → Bool) : (l : List α) →
    (l.filter p).eraseDups = l.eraseDups.filter p
  | [] => rfl
  | a :: l => by
    have ih := eraseDups_filter p (l.filter (!· == a))
    rw [List.eraseDups_cons, List.filter_cons, List.filter_cons]
    split
    · rw [List.eraseDups_cons, ← ih, List.filter_filter, List.filter_filter]
      simp only [Bool.and_comm]
    · rename_i hp
      rw [← ih, List.filter_filter]
      congr 1
      refine List.filter_congr fun b hb => ?_
      by_cases h : b = a
      · subst h
        simp [hp]
      · simp [h]
termination_by l => l.length
decreasing_by exact Nat.lt_succ_of_le (List.length_filter_le ..)

/-! ## Candidates -/

theorem nodup_candidates (host : Text) : (candidates host).Nodup := nodup_eraseDups _

theorem nil_not_mem_candidates (host : Text) : [] ∉ candidates host := by
  simp [candidates, List.mem_eraseDups]

theorem head?_candidates (h : host ≠ []) : (candidates host).head? = some host := by
  simp [candidates, spellings, h, List.eraseDups_cons]

/-- No address is tried twice. -/
theorem nodup_addresses (base host : Text) : (addresses base host).Nodup := by
  refine (nodup_candidates host).map fun c d h => ?_
  exact List.append_cancel_left (List.append_cancel_right h)

/-! ## Paths of hosts -/

theorem splitOn_domainPath (h : '/' ∉ host) :
    splitOn (· == '/') (domainPath host) = (splitOn (· == '.') host).reverse := by
  refine Text.splitOn_join (by simp) fun label hl hm => ?_
  have hlabel := Text.forall_mem_splitOn (· == '.') host label (List.mem_reverse.mp hl) '/' hm
  exact h hlabel.2

/-- The path of a host is as long as the host. -/
theorem length_domainPath (host : Text) : (domainPath host).length = host.length := by
  have hpath : (domainPath host).length + 1 =
      ((splitOn (· == '.') host).reverse.map fun t => t.length + 1).sum :=
    Text.length_join '/' (by simp)
  have hhost := Text.length_join '.' (Text.splitOn_ne_nil (· == '.') host)
  rw [List.map_reverse, List.sum_reverse, ← hhost, Text.join_splitOn] at hpath
  exact Nat.succ.inj hpath

theorem domainPath_www (host : Text) :
    domainPath ("www.".toList ++ host) = domainPath host ++ "/www".toList := by
  have hsplit : splitOn (· == '.') ("www.".toList ++ host) =
      "www".toList :: splitOn (· == '.') host :=
    Text.splitOn_append (t := "www".toList) (by simp) rfl host
  rw [domainPath, hsplit, List.reverse_cons, Text.join_concat _ _ (by simp), List.append_assoc]
  rfl

/-- The path ends in the label "www" only where the host begins with it. -/
theorem www_prefix_of_suffix (h : '/' ∉ host) (hw : "/www".toList <:+ domainPath host) :
    "www.".toList <+: host := by
  obtain ⟨front, hfront⟩ := hw
  have hsplit : splitOn (· == '/') (domainPath host) =
      splitOn (· == '/') front ++ ["www".toList] := by
    rw [← hfront]
    exact Text.splitOn_append_cons (t := "www".toList) rfl front
  rw [splitOn_domainPath h, List.reverse_eq_iff, List.reverse_concat] at hsplit
  have hne : (splitOn (· == '/') front).reverse ≠ [] := by simp
  have hhost := Text.join_splitOn '.' host
  rw [hsplit, Text.join_cons _ _ hne] at hhost
  exact ⟨_, hhost⟩

/-! ## Bare hosts -/

/-- A bare host has no other spelling than the path. -/
theorem spellings_bare (hslash : '/' ∉ host) (hbare : ¬"www.".toList <+: host) :
    spellings host = [host, domainPath host] := by
  have hstart : "www.".toList.isPrefixOf? host = none := by
    rw [Option.eq_none_iff_forall_ne_some]
    exact fun rest hrest => hbare ⟨rest, List.append_eq_of_isPrefixOf?_eq_some hrest⟩
  have hend : "/www".toList.isSuffixOf? (domainPath host) = none := by
    rw [Option.eq_none_iff_forall_ne_some]
    exact fun front hfront => hbare <| www_prefix_of_suffix hslash
      ⟨front, List.append_eq_of_isSuffixOf?_eq_some hfront⟩
  rw [spellings, hstart, hend]
  rfl

theorem spellings_www (host : Text) :
    spellings ("www.".toList ++ host) =
      ["www.".toList ++ host, host, domainPath host ++ "/www".toList, domainPath host] := by
  have hstart : "www.".toList.isPrefixOf? ("www.".toList ++ host) = some host :=
    List.isPrefixOf?_eq_some_iff_append_eq.mpr rfl
  have hend : "/www".toList.isSuffixOf? (domainPath host ++ "/www".toList) =
      some (domainPath host) := List.isSuffixOf?_eq_some_iff_append_eq.mpr rfl
  rw [spellings, domainPath_www, hstart, hend]
  rfl

/-- The spellings of a bare host are among those of its "www" host; the two others are longer. -/
theorem filter_spellings_www (hslash : '/' ∉ host) (hbare : ¬"www.".toList <+: host) :
    (spellings ("www.".toList ++ host)).filter (· ∈ spellings host) = spellings host := by
  have hlonger {t : Text} (ht : host.length < t.length) : t ∉ [host, domainPath host] := by
    intro hm
    simp only [List.mem_cons, List.not_mem_nil, or_false] at hm
    rcases hm with rfl | rfl
    · exact Nat.lt_irrefl _ ht
    · exact Nat.lt_irrefl _ (length_domainPath host ▸ ht)
  have hwww : "www.".toList ++ host ∉ [host, domainPath host] := hlonger (by simp; omega)
  have hpath : domainPath host ++ "/www".toList ∉ [host, domainPath host] :=
    hlonger (by simp [length_domainPath])
  rw [spellings_www, spellings_bare hslash hbare, List.filter_cons_of_neg (by simpa using hwww),
    List.filter_cons_of_pos (by simp), List.filter_cons_of_neg (by simpa using hpath),
    List.filter_cons_of_pos (by simp), List.filter_nil]

theorem candidates_sublist_www (hslash : '/' ∉ host) (hbare : ¬"www.".toList <+: host) :
    (candidates host).Sublist (candidates ("www.".toList ++ host)) := by
  have h : candidates host =
      (candidates ("www.".toList ++ host)).filter (· ∈ spellings host) := by
    rw [candidates, candidates, ← eraseDups_filter, List.filter_comm,
      filter_spellings_www hslash hbare]
  rw [h]
  exact List.filter_sublist

end PageRules.Hub
