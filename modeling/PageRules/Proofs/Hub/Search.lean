import Mathlib
import PageRules.Proofs.Hub.Candidate

/-!
# The search for rules

The outside world is a function from what was asked before to the next answer, and the search is run
so that it records what it asks (`recorded`). A hub is asked address by address until an answer
holds rules (`searched_firstRules`), and it is asked only for a page that has no rules of its own,
by a site that has a host (`resolution_cases`).
-/

namespace PageRules

open Html (Document)

namespace Hub

/-- What was asked, with the answers, in order. -/
abbrev Run := List (Text × Except FetchError (Option Text))

/-- Asks for an address and records the answer, which may depend on the run before it. -/
def recorded (fetch : Run → Text → Except FetchError (Option Text)) (address : Text) :
    StateM Run (Except FetchError (Option Text)) := fun past =>
  (fetch past address, past ++ [(address, fetch past address)])

/-- The answer is a page that is not blank. -/
def HoldsRules (answer : Except FetchError (Option Text)) (t : Text) : Prop :=
  answer = .ok (some t) ∧ Text.trim t ≠ []

/-- A run behind another asks for addresses in their order and ends with the first answer that holds
rules, or with the last address. -/
structure Searched (fetch : Run → Text → Except FetchError (Option Text)) (past : Run)
    (addresses : List Text) (run : Run) (rules : Option Text) : Prop where
  answers : ∀ before e after, run = before ++ e :: after → e.2 = fetch (past ++ before) e.1
  asked : run.map Prod.fst <+: addresses
  outcome :
    (∃ before address answer t, run = before ++ [(address, answer)] ∧ HoldsRules answer t ∧
      (∀ e ∈ before, ∀ t, ¬HoldsRules e.2 t) ∧ rules = some t) ∨
    (run.map Prod.fst = addresses ∧ (∀ e ∈ run, ∀ t, ¬HoldsRules e.2 t) ∧ rules = none)

namespace Searched

variable {fetch : Run → Text → Except FetchError (Option Text)} {past run : Run} {address t : Text}
  {rest : List Text} {rules : Option Text}

theorem nil : Searched fetch past [] [] none where
  answers := by
    intro before e after h
    simp at h
  asked := List.prefix_refl _
  outcome := .inr ⟨rfl, by simp, rfl⟩

theorem found (h : HoldsRules (fetch past address) t) (rest : List Text) :
    Searched fetch past (address :: rest) [(address, fetch past address)] (some t) where
  answers := by
    intro before e after he
    obtain ⟨rfl, rfl⟩ : before = [] ∧ (address, fetch past address) = e := by
      cases before <;> simp_all
    rw [List.append_nil]
  asked := ⟨rest, rfl⟩
  outcome := .inl ⟨[], address, _, t, rfl, h, by simp, rfl⟩

/-- An answer without rules leaves the search to the addresses behind it. -/
theorem passed (h : ∀ t, ¬HoldsRules (fetch past address) t)
    (hs : Searched fetch (past ++ [(address, fetch past address)]) rest run rules) :
    Searched fetch past (address :: rest) ((address, fetch past address) :: run) rules where
  answers := by
    intro before e after he
    cases before with
    | nil =>
      cases he
      rw [List.append_nil]
    | cons e' before =>
      obtain ⟨rfl, hrun⟩ := List.cons.inj he
      rw [hs.answers before e after hrun, List.append_assoc]
      rfl
  asked := List.cons_prefix_cons.mpr ⟨rfl, hs.asked⟩
  outcome := by
    obtain ⟨before, last, answer, t, rfl, ht, hbefore, hrules⟩ | ⟨hall, hrun, hrules⟩ := hs.outcome
    · have hpassed : ∀ e ∈ (address, fetch past address) :: before, ∀ t, ¬HoldsRules e.2 t :=
        List.forall_mem_cons.mpr ⟨h, hbefore⟩
      exact .inl ⟨_ :: before, last, answer, t, rfl, ht, hpassed, hrules⟩
    · exact .inr ⟨congrArg _ hall, List.forall_mem_cons.mpr ⟨h, hrun⟩, hrules⟩

end Searched

variable (fetch : Run → Text → Except FetchError (Option Text))

theorem run_recorded_bind {α : Type} (address : Text) (past : Run)
    (next : Except FetchError (Option Text) → StateM Run α) :
    (recorded fetch address >>= next).run past =
      (next (fetch past address)).run (past ++ [(address, fetch past address)]) := rfl

section

variable {fetch}

theorem firstRules_recorded_of_holdsRules {past : Run} {address t : Text}
    (h : HoldsRules (fetch past address) t) (rest : List Text) :
    (firstRules (recorded fetch) (address :: rest)).run past =
      (some t, past ++ [(address, fetch past address)]) := by
  obtain ⟨hanswer, hblank⟩ := h
  rw [firstRules, run_recorded_bind, hanswer]
  exact congrArg (StateT.run · _) (if_neg hblank)

theorem firstRules_recorded_of_not_holdsRules {past : Run} {address : Text}
    (h : ∀ t, ¬HoldsRules (fetch past address) t) (rest : List Text) :
    (firstRules (recorded fetch) (address :: rest)).run past =
      (firstRules (recorded fetch) rest).run (past ++ [(address, fetch past address)]) := by
  rw [firstRules, run_recorded_bind]
  rcases hanswer : fetch past address with e | _ | t
  · rfl
  · rfl
  · have hblank : Text.trim t = [] := by
      by_contra hne
      exact h t ⟨hanswer, hne⟩
    exact congrArg (StateT.run · _) (if_pos hblank)

end

/-- A search asks for the addresses in their order, each answer being the one that the fetcher gives
then, and gives the rules of the first answer that holds some. -/
theorem searched_firstRules (addresses : List Text) (past : Run) :
    ∃ run rules, (firstRules (recorded fetch) addresses).run past = (rules, past ++ run) ∧
      Searched fetch past addresses run rules := by
  induction addresses generalizing past with
  | nil => exact ⟨[], none, by rw [List.append_nil]; rfl, .nil⟩
  | cons address rest ih =>
    by_cases hrules : ∃ t, HoldsRules (fetch past address) t
    · obtain ⟨t, ht⟩ := hrules
      exact ⟨_, some t, firstRules_recorded_of_holdsRules ht rest, .found ht rest⟩
    · rw [not_exists] at hrules
      obtain ⟨run, rules, hrest, hs⟩ := ih (past ++ [(address, fetch past address)])
      refine ⟨_, rules, ?_, .passed hrules hs⟩
      rw [firstRules_recorded_of_not_holdsRules hrules, hrest, List.append_assoc]
      rfl

end Hub

/-! ## The rules of a page -/

/-- The first element that the selector matches holds these rules. They are its text with line
breaks in one form, and they are not blank. -/
def InlineRules (d : Document) (selector rules : Text) : Prop :=
  ∃ s e, Css.Selector.read? selector = some s ∧ d.elements.find? s.isMatch = some e ∧
    RuleText.unified e.content = rules ∧ Text.trim rules ≠ []

theorem inlineRules?_eq_some_iff {d : Document} {selector rules : Text} :
    inlineRules? d selector = some rules ↔ InlineRules d selector rules := by
  unfold inlineRules?
  constructor
  · intro h
    obtain ⟨s, hs, h⟩ := Option.bind_eq_some_iff.mp h
    obtain ⟨e, he, h⟩ := Option.bind_eq_some_iff.mp h
    dsimp only at h
    split at h
    · cases h
    · rename_i hblank
      cases h
      exact ⟨s, e, hs, he, rfl, hblank⟩
  · rintro ⟨s, e, hs, he, rfl, hblank⟩
    simp only [hs, he, Option.bind_eq_bind, Option.bind_some, if_neg hblank]

/-- The rules of a page and what was asked for them and before them. -/
def resolution (fetch : Hub.Run → Text → Except Hub.FetchError (Option Text)) (d : Document)
    (site : Text) (settings : Settings) (past : Hub.Run) : Option Text × Hub.Run :=
  (resolveRules (Hub.recorded fetch) d site settings).run past

/-- A page with rules of its own has these, and nothing is asked. Nothing is asked for a site
without a host either. For any other, the hub is searched at the addresses of the host, each at most
once. -/
theorem resolution_cases (fetch : Hub.Run → Text → Except Hub.FetchError (Option Text))
    (d : Document) (site : Text) (settings : Settings) (past : Hub.Run) :
    (∃ rules, InlineRules d settings.inlineSelector rules ∧
      resolution fetch d site settings past = (some rules, past)) ∨
    ((∀ rules, ¬InlineRules d settings.inlineSelector rules) ∧
      ((siteHost? site = none ∧ resolution fetch d site settings past = (none, past)) ∨
        ∃ host run rules, siteHost? site = some host ∧
          resolution fetch d site settings past = (rules, past ++ run) ∧
          (run.map Prod.fst).Nodup ∧
          Hub.Searched fetch past
            ((Hub.candidates host).map fun c => settings.hub.normalizedBase ++ c ++ ".dsl".toList)
            run rules)) := by
  simp only [← inlineRules?_eq_some_iff]
  unfold resolution resolveRules
  cases hinline : inlineRules? d settings.inlineSelector with
  | some rules => exact .inl ⟨rules, rfl, rfl⟩
  | none =>
    refine .inr ⟨fun rules => Option.some_ne_none rules ∘ Eq.symm, ?_⟩
    cases hhost : siteHost? site with
    | none => exact .inl ⟨rfl, rfl⟩
    | some host =>
      obtain ⟨run, rules, hrun, hs⟩ :=
        Hub.searched_firstRules fetch (Hub.addresses settings.hub.normalizedBase host) past
      have hnodup : (run.map Prod.fst).Nodup :=
        (Hub.nodup_addresses _ host).sublist hs.asked.sublist
      exact .inr ⟨host, run, rules, rfl, hrun, hnodup, hs⟩

end PageRules
