import Mathlib
import PageRules.RuleText.Line

/-!
# Matching brackets

A reader that comes from the end of a text finds the bracket that opens a group by counting.
Brackets match in what stands between that one and the end (`beforeGroup?_eq_some_iff`).
-/

namespace PageRules.RuleText

/-- As many brackets are opened as closed, and behind no place more are opened. -/
structure Matched (inner : Text) : Prop where
  balance : inner.count '[' = inner.count ']'
  behind : ∀ s, s <:+ inner → s.count '[' ≤ s.count ']'

/-- Read from the end, the text closes `depth` groups that are open, and none of those before. -/
@[mk_iff]
structure Closes (depth : Nat) (u : Text) : Prop where
  balance : u.count '[' = u.count ']' + depth
  within : ∀ p, p <+: u → p.count '[' ≤ p.count ']' + depth

variable {depth : Nat} {u rest before inner t : Text} {c : Char}

/-- Reading backwards from the end of a group closes what reading forwards opens. -/
theorem closes_reverse_iff : Closes 0 inner.reverse ↔ Matched inner := by
  constructor
  · intro h
    refine ⟨by simpa using h.balance, fun s hs => ?_⟩
    simpa using h.within s.reverse (List.reverse_prefix.mpr hs)
  · intro h
    refine ⟨by simpa using h.balance, fun p hp => ?_⟩
    have hs : p.reverse <:+ inner := by rwa [← List.reverse_prefix, List.reverse_reverse]
    simpa using h.behind p.reverse hs

/-- A prefix is empty or begins with the first character. -/
theorem forall_prefix_cons {P : Text → Prop} :
    (∀ p, p <+: c :: u → P p) ↔ P [] ∧ ∀ p, p <+: u → P (c :: p) := by
  constructor
  · exact fun h => ⟨h [] List.nil_prefix, fun p hp => h _ (List.cons_prefix_cons.mpr ⟨rfl, hp⟩)⟩
  · rintro ⟨hnil, hcons⟩ p hp
    rcases List.prefix_cons_iff.mp hp with rfl | ⟨q, rfl, hq⟩
    · exact hnil
    · exact hcons q hq

theorem closes_of_not_mem (hopen : '[' ∉ u) (hclose : ']' ∉ u) : Closes 0 u where
  balance := by rw [List.count_eq_zero_of_not_mem hopen, List.count_eq_zero_of_not_mem hclose]
  within p hp := by
    rw [List.count_eq_zero_of_not_mem fun hm => hopen (hp.subset hm)]
    exact Nat.zero_le _

theorem closes_nil : Closes depth [] ↔ depth = 0 := by
  simp [closes_iff, eq_comm]

/-- A closing bracket, met from behind, waits for one more that opens. -/
theorem closes_close : Closes depth (']' :: u) ↔ Closes (depth + 1) u := by
  simp [closes_iff, forall_prefix_cons, Nat.add_assoc, Nat.add_comm 1]

theorem not_closes_open : ¬Closes 0 ('[' :: u) := by
  intro h
  have := h.within ['['] ⟨u, rfl⟩
  simp at this

theorem closes_open : Closes (depth + 1) ('[' :: u) ↔ Closes depth u := by
  simp [closes_iff, forall_prefix_cons, ← Nat.add_assoc]

theorem closes_other (hopen : c ≠ '[') (hclose : c ≠ ']') :
    Closes depth (c :: u) ↔ Closes depth u := by
  simp [closes_iff, forall_prefix_cons, hopen, hclose]

theorem exists_closes_cons :
    (∃ u, c :: rest = u ++ '[' :: before ∧ Closes depth u) ↔
      (c = '[' ∧ rest = before ∧ depth = 0) ∨
        ∃ u, rest = u ++ '[' :: before ∧ Closes depth (c :: u) := by
  constructor
  · rintro ⟨_ | ⟨d, u⟩, heq, h⟩
    · obtain ⟨rfl, rfl⟩ := List.cons.inj heq
      exact .inl ⟨rfl, rfl, closes_nil.mp h⟩
    · obtain ⟨rfl, rfl⟩ := List.cons.inj heq
      exact .inr ⟨u, rfl, h⟩
  · rintro (⟨rfl, rfl, rfl⟩ | ⟨u, rfl, h⟩)
    · exact ⟨[], rfl, closes_nil.mpr rfl⟩
    · exact ⟨c :: u, rfl, h⟩

/-- Between the bracket that opens a group and the end, all other groups are closed. -/
theorem beforeGroup?_eq_some_iff :
    beforeGroup? depth t = some before ↔ ∃ u, t = u ++ '[' :: before ∧ Closes depth u := by
  fun_induction beforeGroup? depth t with
  | case1 => simp
  | case2 depth rest ih => simp [ih, exists_closes_cons, closes_close]
  | case3 rest => simp [exists_closes_cons, not_closes_open]
  | case4 rest depth ih => simp [ih, exists_closes_cons, closes_open]
  | case5 depth c rest hclose hopen ih =>
    have hopen : c ≠ '[' := hopen
    simp [ih, exists_closes_cons, closes_other hopen hclose, hopen]

end PageRules.RuleText
