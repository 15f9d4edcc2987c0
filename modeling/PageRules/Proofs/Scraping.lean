import Mathlib
import PageRules.Page
import PageRules.Proofs.RuleText.WellFormed

/-!
# Scraping fails for a bad base alone

A value is wrapped with the options of its field or of its items, and the wrapping fails only where
one of them has the key `value`. No compiled option set has it (`Rule.WellFormed`), so extraction by
compiled rules succeeds (`extract_wellFormed`), and what is left to fail is the base for relative
addresses.
-/

namespace PageRules

open Html (Element Document)

/-- A computation that gives a value. -/
def Succeeds {ε α : Type} (x : Except ε α) : Prop := ∃ a, x = .ok a

namespace Succeeds

variable {ε α β : Type}

theorem ok (a : α) : Succeeds (.ok a : Except ε α) := ⟨a, rfl⟩

theorem iff_forall_ne {x : Except ε α} : Succeeds x ↔ ∀ e, x ≠ .error e := by
  cases x with
  | ok a => exact iff_of_true (ok a) nofun
  | error e => exact iff_of_false nofun fun h => h e rfl

/-- Runs in a row succeed when each does. -/
theorem bind {x : Except ε α} {f : α → Except ε β} (hx : Succeeds x) (hf : ∀ a, Succeeds (f a)) :
    Succeeds (x >>= f) := by
  obtain ⟨a, rfl⟩ := hx
  exact hf a

theorem map {x : Except ε α} (f : α → β) (hx : Succeeds x) : Succeeds (f <$> x) := by
  obtain ⟨a, rfl⟩ := hx
  exact ok (f a)

theorem mapM {f : α → Except ε β} {l : List α} (h : ∀ a ∈ l, Succeeds (f a)) :
    Succeeds (l.mapM f) := by
  induction l with
  | nil => exact ok []
  | cons a l ih =>
    rw [List.mapM_cons]
    refine (h a List.mem_cons_self).bind fun b => ?_
    exact (ih fun c hc => h c (List.mem_cons_of_mem _ hc)).bind fun bs => ok (b :: bs)

end Succeeds

/-! ## Extraction -/

/-- Options are put in without fail where none has the key `value`. -/
theorem Tagged.insertAll_succeeds {α : Type} {entries : List (Text × OptionValue)}
    (h : ∀ e ∈ entries, e.1 ≠ OptionKey.value) (t : Tagged α) : Succeeds (t.insertAll entries) := by
  induction entries generalizing t with
  | nil => exact .ok t
  | cons e entries ih =>
    refine Succeeds.bind ?_ (ih fun e' he => h e' (List.mem_cons_of_mem _ he))
    exact ⟨_, if_neg (h e List.mem_cons_self)⟩

theorem Tagged.withPassthrough_succeeds {α : Type} (value : α) {o : OptionSet} (h : o.WellFormed) :
    Succeeds (withPassthrough value o) := by
  refine Tagged.insertAll_succeeds (fun e he => ?_) _
  exact (h.keys _ (WriteOnce.mem_keys_of_mem_entries (List.mem_filter.mp he).1)).ne_value

namespace Template.WellFormed

variable {t : Template}

theorem optionsOf (h : t.WellFormed) (f : Field) : (t.optionsOf f).WellFormed :=
  WriteOnce.forall_getD OptionSet.wellFormed_empty h.field_options f

theorem fieldsIn (h : t.WellFormed) (base : Option Url) (scope : Element) :
    Succeeds (t.fieldsIn base scope) :=
  Succeeds.mapM fun e _ => (Tagged.withPassthrough_succeeds e.2 (h.optionsOf e.1)).map _

theorem itemsIn (h : t.WellFormed) (base : Option Url) (scope : Element) :
    Succeeds (t.itemsIn base scope) := by
  unfold Template.itemsIn
  split
  · exact .ok none
  · refine (Succeeds.mapM fun e _ => (h.fieldsIn base e).map _).bind fun items => ?_
    exact (Tagged.withPassthrough_succeeds items h.section_options).map _

end Template.WellFormed

/-- A well formed rule makes a record of every element. -/
theorem Rule.WellFormed.record {r : Rule} (h : r.WellFormed) (base : Option Url) (e : Element) :
    Succeeds (r.record base e) := by
  unfold Rule.record
  refine (h.template.fieldsIn base e).bind fun fields => ?_
  dsimp only
  split
  · rename_i t ht
    exact ((h.items t ht).2.itemsIn base e).bind fun items => .ok _
  · exact .ok _

theorem Hit.rule_mem {rules : List Rule} {elements : List Element} {h : Hit}
    (hm : h ∈ all rules elements) : h.rule ∈ rules := by
  simp only [all, List.mem_mergeSort, List.mem_flatMap, List.mem_map] at hm
  obtain ⟨⟨rule, order⟩, hr, _, -, rfl⟩ := hm
  exact List.fst_mem_of_mem_zipIdx hr

/-- Rules that are well formed can be extracted from any document. -/
theorem extract_wellFormed {rules : List Rule} (h : ∀ r ∈ rules, r.WellFormed) (base : Option Url)
    (d : Document) : Succeeds (extract base rules d) :=
  Succeeds.mapM fun hit hm => (h hit.rule (Hit.rule_mem hm)).record base hit.element

/-- What a rule text selects for a path extracts from every document. -/
theorem extract_select (base : Option Url) (raw path : Text) (d : Document) :
    Succeeds (extract base ((RuleText.compile raw).select path) d) := by
  refine extract_wellFormed (fun r hr => ?_) base d
  unfold RuleText.Compilation.select PathScope.select at hr
  split at hr
  · rename_i s hs
    exact RuleText.wellFormed_of_mem_scopes (List.mem_of_find?_eq_some hs) hr
  · cases hr

/-! ## Scraping -/

/-- The base is refused where it is present and not blank, and its trimmed text is no URL. -/
theorem Settings.base_eq_error_iff {s : Settings} {e : InvalidBase} :
    s.base = .error e ↔ ∃ written err, s.baseUrl = some written ∧ Text.trim written ≠ [] ∧
      Url.read (Text.trim written) = .error err ∧ e = ⟨Text.trim written, err⟩ := by
  cases hb : s.baseUrl with
  | none => simp [Settings.base, hb, Text.trim, Text.trimEnd, Text.trimStart, Text.dropEndWhile]
  | some written =>
    unfold Settings.base
    simp only [hb, Option.getD_some, Option.some.injEq]
    constructor
    · intro h
      split at h
      · cases h
      · rename_i hn
        split at h
        · cases h
        · rename_i err hr
          cases h
          exact ⟨written, err, rfl, hn, hr, rfl⟩
    · rintro ⟨_, err, rfl, hn, hr, rfl⟩
      split
      · contradiction
      · rw [hr]

/-- The base is absent, blank or a URL. -/
def Settings.BaseReads (s : Settings) : Prop :=
  ∀ written, s.baseUrl = some written →
    Text.trim written = [] ∨ ∃ url, Url.read (Text.trim written) = .ok url

theorem Settings.base_succeeds_iff {s : Settings} : Succeeds s.base ↔ s.BaseReads := by
  rw [Succeeds.iff_forall_ne]
  constructor
  · intro h written hw
    by_cases hn : Text.trim written = []
    · exact .inl hn
    · have hread : Succeeds (Url.read (Text.trim written)) := by
        rw [Succeeds.iff_forall_ne]
        intro err hr
        exact h _ (base_eq_error_iff.mpr ⟨written, err, hw, hn, hr, rfl⟩)
      exact .inr hread
  · intro h e he
    obtain ⟨written, err, hw, hn, hr, -⟩ := base_eq_error_iff.mp he
    rcases h written hw with hblank | ⟨url, hu⟩
    · exact hn hblank
    · rw [hr] at hu
      cases hu

theorem Page.base_eq_error_iff {settings : Settings} (address : Text) {e : InvalidBase} :
    Page.base settings address = .error e ↔ settings.base = .error e := by
  unfold Page.base
  cases settings.base <;> simp [Except.map]

/-- Scraping gives an error exactly where the base does, and then that error. -/
theorem Page.scrape_eq_error_iff_base {d : Document} {address raw : Text} {settings : Settings}
    {e : ScrapeError} : Page.scrape d address raw settings = .error e ↔
      ∃ b, settings.base = .error b ∧ e = .base b := by
  unfold Page.scrape
  simp only [← Page.base_eq_error_iff address]
  cases Page.base settings address with
  | error b =>
    constructor
    · intro h
      cases h
      exact ⟨b, rfl, rfl⟩
    · rintro ⟨_, h, rfl⟩
      cases h
      rfl
  | ok base =>
    obtain ⟨records, hr⟩ := extract_select base raw (requestPath address) d
    constructor
    · intro h
      simp [Except.mapError, hr, bind, Except.bind, pure, Except.pure] at h
    · rintro ⟨_, h, -⟩
      cases h

/-- A page comes of every rule text, as long as the base can be used. -/
theorem Page.scrape_succeeds_iff {d : Document} {address raw : Text} {settings : Settings} :
    Succeeds (Page.scrape d address raw settings) ↔ Succeeds settings.base := by
  rw [Succeeds.iff_forall_ne, Succeeds.iff_forall_ne]
  constructor
  · intro h b hb
    exact h _ (Page.scrape_eq_error_iff_base.mpr ⟨b, hb, rfl⟩)
  · intro h e he
    obtain ⟨b, hb, -⟩ := Page.scrape_eq_error_iff_base.mp he
    exact h b hb

/-- Scraping fails exactly for a base that is present, not blank and no URL, and the error then
names the trimmed base. No compiled rules make extraction fail. -/
theorem scrape_eq_error_iff (d : Document) (address raw : Text) (settings : Settings) :
    (∀ e, Page.scrape d address raw settings = .error e ↔
      ∃ written err, settings.baseUrl = some written ∧ Text.trim written ≠ [] ∧
        Url.read (Text.trim written) = .error err ∧ e = .base ⟨Text.trim written, err⟩) ∧
    ∀ s ∈ (RuleText.compile raw).scopes, ∀ base, ∃ records, extract base s.rules d = .ok records := by
  constructor
  · intro e
    rw [Page.scrape_eq_error_iff_base]
    simp only [Settings.base_eq_error_iff]
    constructor
    · rintro ⟨b, ⟨written, err, hw, hn, hr, rfl⟩, rfl⟩
      exact ⟨written, err, hw, hn, hr, rfl⟩
    · rintro ⟨written, err, hw, hn, hr, rfl⟩
      exact ⟨_, ⟨written, err, hw, hn, hr, rfl⟩, rfl⟩
  · intro s hs base
    exact extract_wellFormed (fun r hr => RuleText.wellFormed_of_mem_scopes hs hr) base d

end PageRules
