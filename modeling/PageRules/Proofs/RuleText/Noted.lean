import Mathlib
import PageRules.RuleText.Issue

/-! # Runs that note as they go -/

namespace PageRules.RuleText.Noted

instance : LawfulMonad Noted :=
  LawfulMonad.mk' Noted
    (fun x => by
      change (⟨x.value, x.notes ++ []⟩ : Noted _) = x
      rw [List.append_nil])
    (fun _ _ => rfl)
    (fun x f g => by
      change (⟨_, (x.notes ++ (f x.value).notes) ++ _⟩ : Noted _) = ⟨_, _ ++ _⟩
      rw [List.append_assoc]
      rfl)

variable {α β : Type}

@[simp] theorem ofNotes_nil : ofNotes [] = pure () := rfl

@[simp] theorem value_map (f : α → β) (x : Noted α) : (f <$> x).value = f x.value := rfl

/-- A fold that notes as it goes keeps what each of its steps keeps. -/
theorem foldlM_invariant (p : β → Prop) {f : β → α → Noted β}
    (step : ∀ b a, p b → p (f b a).value) (l : List α) {b : β} (h : p b) :
    p (l.foldlM f b).value := by
  induction l generalizing b with
  | nil => exact h
  | cons a l ih =>
    rw [List.foldlM_cons, value_bind]
    exact ih (step b a h)

/-- A fold whose steps note nothing is a fold of values. -/
theorem foldlM_pure {f : β → α → Noted β} {g : β → α → β} {l : List α}
    (h : ∀ b, ∀ a ∈ l, f b a = pure (g b a)) (b : β) : l.foldlM f b = pure (l.foldl g b) := by
  induction l generalizing b with
  | nil => rfl
  | cons a l ih =>
    rw [List.foldlM_cons, h b a List.mem_cons_self, pure_bind, List.foldl_cons]
    exact ih (fun b a ha => h b a (List.mem_cons_of_mem _ ha)) _

/-- All values are collected where each is made and nothing is noted. -/
theorem collect_pure {make : α → Noted (Option β)} {l : List α} {values : List β}
    (h : List.Forall₂ (fun b a => make a = pure (some b)) values l) :
    collect make l = pure values := by
  induction h with
  | nil => rfl
  | cons ha _ ih =>
    rw [collect, ha, pure_bind, ih, pure_bind]
    rfl

/-- `p` holds of all that is noted. -/
def Each (p : Note → Prop) (x : Noted α) : Prop := ∀ note ∈ x.notes, p note

section

variable {p : Note → Prop}

theorem each_pure (a : α) : (pure a : Noted α).Each p := by
  intro note hn
  cases hn

theorem each_note {start : Nat} {issue : Issue} (h : p ⟨start, issue⟩) :
    (note start issue).Each p := by
  intro note hn
  cases List.mem_singleton.mp hn
  exact h

/-- All notes of two runs in a row are of a kind where those of each are. -/
theorem Each.bind {x : Noted α} {f : α → Noted β} (hx : x.Each p) (hf : ∀ a, (f a).Each p) :
    (x >>= f).Each p := by
  intro note hn
  rw [notes_bind, List.mem_append] at hn
  rcases hn with hn | hn
  · exact hx note hn
  · exact hf _ note hn

theorem each_foldlM {f : β → α → Noted β} {l : List α} (h : ∀ b, ∀ a ∈ l, (f b a).Each p) (b : β) :
    (l.foldlM f b).Each p := by
  induction l generalizing b with
  | nil => exact each_pure b
  | cons a l ih =>
    rw [List.foldlM_cons]
    exact (h b a List.mem_cons_self).bind fun b =>
      ih (fun b a ha => h b a (List.mem_cons_of_mem _ ha)) b

theorem each_collect {make : α → Noted (Option β)} {l : List α} (h : ∀ a ∈ l, (make a).Each p) :
    (collect make l).Each p := by
  intro note hn
  rw [notes_collect] at hn
  obtain ⟨a, ha, hn⟩ := List.mem_flatMap.mp hn
  exact h a ha note hn

end

end PageRules.RuleText.Noted
