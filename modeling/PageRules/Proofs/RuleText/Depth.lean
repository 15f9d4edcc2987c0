import Mathlib
import PageRules.Proofs.RuleText.Scan

/-!
# Brace depth

The brace depth runs through a whole text. Where it comes down to zero, every brace on the way has
its match, so a body that begins anywhere in the text also ends in it (`body?_of_braceDepth`).
-/

namespace PageRules.RuleText

/-- The depth behind a text that begins at depth `d`; none where a brace closes that was never
opened. -/
def braceDepth? (d : Nat) : Text → Option Nat
  | [] => some d
  | c :: t =>
    if c = '\x7b' then braceDepth? (d + 1) t
    else if c = '\x7d' then
      match d with
      | 0 => none
      | d + 1 => braceDepth? d t
    else braceDepth? d t

variable {d e : Nat} {s t : Text}

@[simp] theorem braceDepth?_nil (d : Nat) : braceDepth? d [] = some d := rfl

@[simp] theorem braceDepth?_open (d : Nat) (t : Text) :
    braceDepth? d ('\x7b' :: t) = braceDepth? (d + 1) t := rfl

@[simp] theorem braceDepth?_close_zero (t : Text) : braceDepth? 0 ('\x7d' :: t) = none := rfl

@[simp] theorem braceDepth?_close_succ (d : Nat) (t : Text) :
    braceDepth? (d + 1) ('\x7d' :: t) = braceDepth? d t := rfl

theorem braceDepth?_cons {c : Char} (ho : c ≠ '\x7b') (hc : c ≠ '\x7d') (d : Nat) (t : Text) :
    braceDepth? d (c :: t) = braceDepth? d t := by
  conv_lhs => unfold braceDepth?
  rw [if_neg ho, if_neg hc]

theorem braceDepth?_append (d : Nat) (s t : Text) :
    braceDepth? d (s ++ t) = (braceDepth? d s).bind (braceDepth? · t) := by
  induction s generalizing d with
  | nil => rfl
  | cons c s ih =>
    by_cases ho : c = '\x7b'
    · subst ho
      exact ih (d + 1)
    by_cases hc : c = '\x7d'
    · subst hc
      cases d with
      | zero => rfl
      | succ d => exact ih d
    rw [List.cons_append, braceDepth?_cons ho hc, braceDepth?_cons ho hc, ih]

theorem braceDepth?_of_not_mem (ho : '\x7b' ∉ t) (hc : '\x7d' ∉ t) (d : Nat) :
    braceDepth? d t = some d := by
  induction t with
  | nil => rfl
  | cons c t ih =>
    rw [braceDepth?_cons (List.ne_of_not_mem_cons ho).symm (List.ne_of_not_mem_cons hc).symm]
    exact ih (List.not_mem_of_not_mem_cons ho) (List.not_mem_of_not_mem_cons hc)

theorem braceDepth?_append_eq_some_iff :
    braceDepth? d (s ++ t) = some e ↔
      ∃ d', braceDepth? d s = some d' ∧ braceDepth? d' t = some e := by
  rw [braceDepth?_append, Option.bind_eq_some_iff]

theorem braceDepth?_append_of_not_mem (ho : '\x7b' ∉ s) (hc : '\x7d' ∉ s) (d : Nat) (t : Text) :
    braceDepth? d (s ++ t) = braceDepth? d t := by
  rw [braceDepth?_append, braceDepth?_of_not_mem ho hc]
  rfl

theorem braceDepth?_add (h : braceDepth? d t = some e) (n : Nat) :
    braceDepth? (d + n) t = some (e + n) := by
  induction t generalizing d with
  | nil =>
    cases h
    rfl
  | cons c t ih =>
    by_cases ho : c = '\x7b'
    · subst ho
      rw [braceDepth?_open] at h ⊢
      rw [Nat.add_right_comm]
      exact ih h
    by_cases hc : c = '\x7d'
    · subst hc
      cases d with
      | zero => cases h
      | succ d =>
        rw [Nat.add_right_comm]
        exact ih h
    · rw [braceDepth?_cons ho hc] at h ⊢
      exact ih h

/-! ## Bodies -/

theorem body?_close_succ (e : Nat) (t : Text) :
    body? (e + 1) ('\x7d' :: t) = (body? e t).map fun (body, after) => ('\x7d' :: body, after) := by
  conv_lhs => unfold body?
  rfl

theorem body?_close_zero (t : Text) : body? 0 ('\x7d' :: t) = some ([], t) := by
  unfold body?
  rfl

/-- A body ends at its brace, wherever the text goes on. -/
theorem body?_append_of_some {body after : Text} (h : body? e t = some (body, after)) (s : Text) :
    body? e (t ++ s) = some (body, after ++ s) := by
  induction t generalizing e body with
  | nil => cases h
  | cons c t ih =>
    by_cases hc : c = '\x7d'
    · subst hc
      cases e with
      | zero =>
        rw [body?_close_zero] at h
        cases h
        exact body?_close_zero (after ++ s)
      | succ e =>
        rw [body?_close_succ] at h
        obtain ⟨⟨b, a⟩, hb, he⟩ := Option.map_eq_some_iff.mp h
        cases he
        rw [List.cons_append, body?_close_succ, ih hb]
        rfl
    by_cases ho : c = '\x7b'
    · subst ho
      rw [body?_open] at h
      obtain ⟨⟨b, a⟩, hb, he⟩ := Option.map_eq_some_iff.mp h
      cases he
      rw [List.cons_append, body?_open, ih hb]
      rfl
    · rw [body?_cons ho hc] at h
      obtain ⟨⟨b, a⟩, hb, he⟩ := Option.map_eq_some_iff.mp h
      cases he
      rw [List.cons_append, body?_cons ho hc, ih hb]
      rfl

/-- The braces of a body are matched, and the one that ends it stands behind it. -/
theorem body?_eq_some {body after : Text} (h : body? e t = some (body, after)) :
    t = body ++ '\x7d' :: after ∧ ∀ d, braceDepth? (d + e) body = some d := by
  induction t generalizing e body with
  | nil => cases h
  | cons c t ih =>
    by_cases hc : c = '\x7d'
    · subst hc
      cases e with
      | zero =>
        rw [body?_close_zero] at h
        cases h
        exact ⟨rfl, fun _ => rfl⟩
      | succ e =>
        rw [body?_close_succ] at h
        obtain ⟨⟨b, a⟩, hb, he⟩ := Option.map_eq_some_iff.mp h
        cases he
        obtain ⟨rfl, hd⟩ := ih hb
        exact ⟨rfl, hd⟩
    by_cases ho : c = '\x7b'
    · subst ho
      rw [body?_open] at h
      obtain ⟨⟨b, a⟩, hb, he⟩ := Option.map_eq_some_iff.mp h
      cases he
      obtain ⟨rfl, hd⟩ := ih hb
      exact ⟨rfl, hd⟩
    · rw [body?_cons ho hc] at h
      obtain ⟨⟨b, a⟩, hb, he⟩ := Option.map_eq_some_iff.mp h
      cases he
      obtain ⟨rfl, hd⟩ := ih hb
      exact ⟨rfl, fun d => (braceDepth?_cons ho hc _ _).trans (hd d)⟩

/-- In a text that comes down to zero every brace is closed: the text behind the closing brace
begins at the depth that was there before the opening one. -/
theorem body?_of_braceDepth (h : braceDepth? (d + e + 1) t = some 0) :
    ∃ body after, body? e t = some (body, after) ∧ braceDepth? d after = some 0 := by
  induction t generalizing e with
  | nil => cases h
  | cons c t ih =>
    by_cases hc : c = '\x7d'
    · subst hc
      rw [braceDepth?_close_succ] at h
      cases e with
      | zero => exact ⟨[], t, body?_close_zero t, h⟩
      | succ e =>
        obtain ⟨body, after, hb, hd⟩ := ih h
        exact ⟨'\x7d' :: body, after, by rw [body?_close_succ, hb]; rfl, hd⟩
    by_cases ho : c = '\x7b'
    · subst ho
      rw [braceDepth?_open] at h
      obtain ⟨body, after, hb, hd⟩ := ih (e := e + 1) h
      exact ⟨'\x7b' :: body, after, by rw [body?_open, hb]; rfl, hd⟩
    · rw [braceDepth?_cons ho hc] at h
      obtain ⟨body, after, hb, hd⟩ := ih h
      exact ⟨c :: body, after, by rw [body?_cons ho hc, hb]; rfl, hd⟩

/-- A text that does not close a body is passed over. -/
theorem body?_append_of_braceDepth (h : braceDepth? d t = some e) (s : Text) :
    body? d (t ++ s) = (body? e s).map fun (body, after) => (t ++ body, after) := by
  induction t generalizing d with
  | nil =>
    cases h
    simp
  | cons c t ih =>
    by_cases hc : c = '\x7d'
    · subst hc
      cases d with
      | zero => cases h
      | succ d =>
        rw [List.cons_append, body?_close_succ, ih h, Option.map_map]
        rfl
    by_cases ho : c = '\x7b'
    · subst ho
      rw [List.cons_append, body?_open, ih h, Option.map_map]
      rfl
    · rw [braceDepth?_cons ho hc] at h
      rw [List.cons_append, body?_cons ho hc, ih h, Option.map_map]
      rfl

/-- A body whose braces are matched goes through to the brace behind it. -/
theorem body?_of_braceDepth_eq (h : braceDepth? e t = some 0) (s : Text) :
    body? e (t ++ '\x7d' :: s) = some (t, s) := by
  rw [body?_append_of_braceDepth h, body?_close_zero]
  simp

/-- A text closes no body where the depth stays above the opening brace. -/
theorem body?_eq_none_iff : body? e t = none ↔ ∃ d, braceDepth? e t = some d := by
  refine ⟨fun h => ?_, fun ⟨d, h⟩ => ?_⟩
  · induction t generalizing e with
    | nil => exact ⟨e, rfl⟩
    | cons c t ih =>
      by_cases hc : c = '\x7d'
      · subst hc
        cases e with
        | zero => cases (body?_close_zero t).symm.trans h
        | succ e =>
          rw [body?_close_succ, Option.map_eq_none_iff] at h
          exact ih h
      by_cases ho : c = '\x7b'
      · subst ho
        rw [body?_open, Option.map_eq_none_iff] at h
        exact ih h
      · rw [body?_cons ho hc, Option.map_eq_none_iff] at h
        rw [braceDepth?_cons ho hc]
        exact ih h
  · have hend := body?_append_of_braceDepth h []
    rwa [List.append_nil] at hend

end PageRules.RuleText
