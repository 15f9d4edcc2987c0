import Mathlib
import PageRules.Proofs.Hub.Search
import PageRules.Proofs.Site

/-!
# The form of the addresses on a hub

An address is the base, slashes, a name and the ending of rule texts (`requests_wellFormed`). The
slashes at the end of a base are kept as they are, so there is more than one where the base has
more. A name is well formed where the host has no empty label: the path of a host has a segment for
every label, and the empty label that a dot at the end makes becomes a slash in front.
-/

namespace PageRules

open Html (Document)
open Text (splitOn)

/-! ## Bases -/

namespace HubSettings

/-- The base without white space around it and without the slashes at its end. -/
def stem (h : HubSettings) : Text := Text.dropEndWhile (· == '/') (Text.trim h.base)

/-- How many slashes the base ends in. -/
def endSlashes (h : HubSettings) : Nat := ((Text.trim h.base).reverse.takeWhile (· == '/')).length

/-- How many slashes stand between the stem and a name. -/
def slashes (h : HubSettings) : Nat := max 1 h.endSlashes

theorem trim_base_eq (h : HubSettings) :
    Text.trim h.base = h.stem ++ List.replicate h.endSlashes '/' := by
  have hslashes : (Text.trim h.base).reverse.takeWhile (· == '/') =
      List.replicate h.endSlashes '/' := by
    refine List.eq_replicate_iff.mpr ⟨rfl, fun c hc => ?_⟩
    have hc := List.mem_takeWhile_imp (p := (· == '/')) hc
    exact beq_iff_eq.mp hc
  calc
    Text.trim h.base = h.stem ++ ((Text.trim h.base).reverse.takeWhile (· == '/')).reverse := by
      rw [stem, Text.dropEndWhile, ← List.reverse_append, List.takeWhile_append_dropWhile,
        List.reverse_reverse]
    _ = h.stem ++ List.replicate h.endSlashes '/' := by rw [hslashes, List.reverse_replicate]

theorem getLast?_trim_base_iff (h : HubSettings) :
    (Text.trim h.base).getLast? = some '/' ↔ h.endSlashes ≠ 0 := by
  rw [← List.head?_reverse, endSlashes]
  cases (Text.trim h.base).reverse with
  | nil => simp
  | cons c t => by_cases hc : c = '/' <;> simp [hc]

theorem normalizedBase_eq (h : HubSettings) :
    h.normalizedBase = h.stem ++ List.replicate h.slashes '/' := by
  have hbase := h.trim_base_eq
  have hlast := h.getLast?_trim_base_iff
  unfold normalizedBase slashes
  dsimp only
  split
  · rename_i hslash
    rwa [Nat.max_eq_right (Nat.one_le_iff_ne_zero.mpr (hlast.mp hslash))]
  · rename_i hslash
    rw [not_not.mp (mt hlast.mpr hslash)] at hbase ⊢
    rw [hbase, List.replicate_zero, List.append_nil]
    rfl

theorem slashes_eq_one_iff (h : HubSettings) :
    h.slashes = 1 ↔ ¬"//".toList <:+ Text.trim h.base := by
  rw [slashes, endSlashes, ← List.reverse_prefix]
  rcases (Text.trim h.base).reverse with _ | ⟨c, _ | ⟨d, t⟩⟩
  · simp
  · by_cases hc : c = '/' <;> simp [hc]
  · by_cases hc : c = '/'
    · by_cases hd : d = '/'
      · simp [hc, hd]
      · simp [hc, hd, Ne.symm hd]
    · simp [hc, Ne.symm hc]

end HubSettings

/-! ## Names -/

namespace Hub

/-- The name neither begins nor ends with a slash and has no empty segment. -/
structure WellFormedName (name : Text) : Prop where
  start : name.head? ≠ some '/'
  finish : name.getLast? ≠ some '/'
  segments : [] ∉ splitOn (· == '/') name

variable {host name : Text}

/-- A slash at an end would set off an empty segment. -/
theorem wellFormedName_iff : WellFormedName name ↔ [] ∉ splitOn (· == '/') name := by
  refine ⟨WellFormedName.segments, fun h => ⟨fun hstart => ?_, fun hfinish => ?_, h⟩⟩
  · obtain ⟨rest, rfl⟩ := List.head?_eq_some_iff.mp hstart
    exact h (by simp [splitOn])
  · obtain ⟨front, rfl⟩ := List.getLast?_eq_some_iff.mp hfinish
    rw [Text.splitOn_append_cons rfl] at h
    exact h (List.mem_append_right _ (by simp [splitOn]))

theorem mem_spellings (hslash : '/' ∉ host) (h : name ∈ spellings host) :
    '/' ∉ name ∨ name = domainPath host ∨ domainPath host = name ++ "/www".toList := by
  simp only [spellings, List.cons_append, List.mem_cons, List.mem_append, Option.mem_toList] at h
  rcases h with rfl | h | rfl | h
  · exact .inl hslash
  · rw [List.isPrefixOf?_eq_some_iff_append_eq] at h
    exact .inl fun hm => hslash (h ▸ List.mem_append_right _ hm)
  · exact .inr (.inl rfl)
  · exact .inr (.inr (List.append_eq_of_isSuffixOf?_eq_some h).symm)

/-- A candidate with a slash is the path of the host, or all of it but the label "www". -/
theorem wellFormedName_iff_of_mem_candidates (hslash : '/' ∉ host) (h : name ∈ candidates host) :
    WellFormedName name ↔ '/' ∉ name ∨ [] ∉ splitOn (· == '.') host := by
  rw [wellFormedName_iff]
  rw [candidates, List.mem_eraseDups, List.mem_filter, decide_eq_true_iff] at h
  obtain ⟨hspelling, hne⟩ := h
  by_cases hm : '/' ∈ name
  · have hlabels : [] ∈ splitOn (· == '.') host ↔ [] ∈ splitOn (· == '/') name := by
      rw [← List.mem_reverse, ← splitOn_domainPath hslash]
      rcases mem_spellings hslash hspelling with hno | rfl | hpath
      · exact absurd hm hno
      · exact Iff.rfl
      · rw [hpath, show "/www".toList = '/' :: "www".toList from rfl, Text.splitOn_append_cons rfl,
          Text.splitOn_of_forall_not (t := "www".toList) (by simp)]
        simp
    rw [hlabels]
    exact ⟨.inr, fun h => h.resolve_left (not_not_intro hm)⟩
  · rw [Text.splitOn_of_forall_not (Text.beq_eq_false_of_mem hm)]
    simp [hm, Ne.symm hne]

end Hub

/-! ## Addresses -/

/-- The address of a name on a hub: the stem of the base, slashes, the name and the ending. -/
def HubSettings.addressOf (h : HubSettings) (name : Text) : Text :=
  h.stem ++ List.replicate h.slashes '/' ++ name ++ ".dsl".toList

/-- What a resolution asks for are the addresses of a host's candidates, from the first one on. -/
theorem exists_requested (fetch : Hub.Run → Text → Except Hub.FetchError (Option Text))
    (d : Document) (site : Text) (settings : Settings) (past : Hub.Run) :
    ∃ run, (resolution fetch d site settings past).2 = past ++ run ∧
      (run = [] ∨ ∃ host, siteHost? site = some host ∧
        run.map Prod.fst <+: (Hub.candidates host).map settings.hub.addressOf) := by
  unfold resolution resolveRules
  cases inlineRules? d settings.inlineSelector with
  | some rules => exact ⟨[], (List.append_nil past).symm, .inl rfl⟩
  | none =>
    cases hhost : siteHost? site with
    | none => exact ⟨[], (List.append_nil past).symm, .inl rfl⟩
    | some host =>
      obtain ⟨run, rules, hrun, hs⟩ :=
        Hub.searched_firstRules fetch (Hub.addresses settings.hub.normalizedBase host) past
      have hasked := hs.asked
      rw [Hub.addresses, HubSettings.normalizedBase_eq] at hasked
      exact ⟨run, congrArg Prod.snd hrun, .inr ⟨host, rfl, hasked⟩⟩

/-- A resolution asks for addresses of candidates of the site's host, and for no candidate twice.
One slash stands in front of the candidate unless the base ends in two, and the candidate is well
formed unless it has a slash and the host has an empty label. -/
theorem requests_wellFormed (fetch : Hub.Run → Text → Except Hub.FetchError (Option Text))
    (d : Document) (site : Text) (settings : Settings) (past : Hub.Run) :
    ∃ names : List Text, (resolution fetch d site settings past).2.map Prod.fst =
        past.map Prod.fst ++ names.map settings.hub.addressOf ∧
      names.Nodup ∧
      (settings.hub.slashes = 1 ↔ ¬"//".toList <:+ Text.trim settings.hub.base) ∧
      ∀ name ∈ names, ∃ host, siteHost? site = some host ∧ name ∈ Hub.candidates host ∧
        (Hub.WellFormedName name ↔ '/' ∉ name ∨ [] ∉ splitOn (· == '.') host) := by
  obtain ⟨run, hrun, rfl | ⟨host, hhost, hasked⟩⟩ := exists_requested fetch d site settings past
  · refine ⟨[], ?_, List.nodup_nil, settings.hub.slashes_eq_one_iff, List.forall_mem_nil _⟩
    rw [hrun, List.append_nil, List.map_nil, List.append_nil]
  · obtain ⟨names, hnames, hmap⟩ := List.prefix_map_iff.mp hasked
    refine ⟨names, ?_, ?_, settings.hub.slashes_eq_one_iff, fun name hname => ?_⟩
    · rw [hrun, List.map_append, hmap]
    · exact (Hub.nodup_candidates host).sublist hnames.sublist
    · have hcandidate := hnames.subset hname
      have hslash := slash_not_mem_of_siteHost? hhost
      exact ⟨host, hhost, hcandidate,
        Hub.wellFormedName_iff_of_mem_candidates hslash hcandidate⟩

/-- The empty label behind the dot makes an empty segment. -/
example : Hub.candidates "a.b.".toList = ["a.b.".toList, "/b/a".toList] := by decide +kernel

end PageRules
