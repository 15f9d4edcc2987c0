import Mathlib
import PageRules.Proofs.RuleText.Plain

/-!
# Balanced texts

In a balanced text every brace has its match, so that a body goes on past it (`body?_append`) and a
scan inside braces goes through it (`scanFrom_balanced`).
-/

namespace PageRules.RuleText

/-- Every brace in the text has its match. -/
inductive Balanced : Text → Prop
  | nil : Balanced []
  | char {c : Char} {t : Text} (ho : c ≠ '\x7b') (hc : c ≠ '\x7d') : Balanced t → Balanced (c :: t)
  | braces {t u : Text} : Balanced t → Balanced u → Balanced ('\x7b' :: t ++ '\x7d' :: u)

namespace Balanced

variable {s t : Text}

theorem append (hs : Balanced s) (ht : Balanced t) : Balanced (s ++ t) := by
  induction hs with
  | nil => exact ht
  | char ho hc _ ih => exact .char ho hc ih
  | braces hs _ _ ih =>
    rw [List.append_assoc, List.cons_append]
    exact .braces hs ih

/-- A text without braces is balanced. -/
theorem of_not_mem (ho : '\x7b' ∉ t) (hc : '\x7d' ∉ t) : Balanced t := by
  induction t with
  | nil => exact .nil
  | cons c t ih =>
    exact .char (List.ne_of_not_mem_cons ho).symm (List.ne_of_not_mem_cons hc).symm
      (ih (List.not_mem_of_not_mem_cons ho) (List.not_mem_of_not_mem_cons hc))

theorem of_plain (h : Text.Plain t) : Balanced t :=
  of_not_mem (h.not_mem _ (by simp)) (h.not_mem _ (by simp))

/-- Lines that are balanced each for itself are so together. -/
theorem unlines {lines : List Text} (h : ∀ t ∈ lines, Balanced t) :
    Balanced (Text.unlines lines) := by
  induction lines with
  | nil => exact .nil
  | cons t lines ih =>
    rw [Text.unlines_cons]
    exact (h t List.mem_cons_self).append
      (.char (by decide) (by decide) (ih fun u hu => h u (List.mem_cons_of_mem _ hu)))

/-- Groups of lines need to be balanced as groups only: a block opens in one line and closes in
another. -/
theorem unlines_flatMap {α : Type} {lines : α → List Text} {l : List α}
    (h : ∀ a ∈ l, Balanced (Text.unlines (lines a))) :
    Balanced (Text.unlines (l.flatMap lines)) := by
  induction l with
  | nil => exact .nil
  | cons a l ih =>
    rw [List.flatMap_cons, Text.unlines_append]
    exact (h a List.mem_cons_self).append (ih fun b hb => h b (List.mem_cons_of_mem _ hb))

end Balanced

/-! ## Bodies -/

variable {t : Text}

theorem body?_cons {c : Char} (ho : c ≠ '\x7b') (hc : c ≠ '\x7d') (depth : Nat) (t : Text) :
    body? depth (c :: t) = (body? depth t).map fun (body, after) => (c :: body, after) := by
  conv_lhs => unfold body?
  rw [if_neg (by simpa using hc), if_neg (by simpa using ho)]

theorem body?_open (depth : Nat) (t : Text) :
    body? depth ('\x7b' :: t) =
      (body? (depth + 1) t).map fun (body, after) => ('\x7b' :: body, after) := by
  conv_lhs => unfold body?
  rfl

/-- A body goes on past a balanced text, at whatever depth it is. -/
theorem body?_append (h : Balanced t) (depth : Nat) (s : Text) :
    body? depth (t ++ s) = (body? depth s).map fun (body, after) => (t ++ body, after) := by
  induction h generalizing depth s with
  | nil => simp
  | char ho hc _ ih =>
    rw [List.cons_append, body?_cons ho hc, ih, Option.map_map]
    rfl
  | @braces t u _ _ iht ihu =>
    have hclose (s : Text) : body? (depth + 1) ('\x7d' :: s) =
        (body? depth s).map fun (body, after) => ('\x7d' :: body, after) := by
      conv_lhs => unfold body?
      rfl
    rw [List.append_assoc, List.cons_append, List.cons_append, body?_open, iht, hclose, ihu]
    cases body? depth s <;> simp

/-- The brace after a balanced text closes the body. -/
theorem body?_balanced (h : Balanced t) (s : Text) : body? 0 (t ++ '\x7d' :: s) = some (t, s) := by
  have hclose : body? 0 ('\x7d' :: s) = some ([], s) := by
    unfold body?
    rfl
  rw [body?_append h, hclose]
  simp

/-- A header is what stands in front of the first opening brace of its line. -/
theorem header?_append {h : Text} (ho : '\x7b' ∉ h) (hc : '\x7d' ∉ h) (hn : '\n' ∉ h) (s : Text) :
    header? (h ++ '\x7b' :: s) = some (h, s) := by
  induction h with
  | nil => rfl
  | cons c h ih =>
    have hco : (c == '\x7b') = false := beq_false_of_ne (List.ne_of_not_mem_cons ho).symm
    have hcc : (c == '\x7d') = false := beq_false_of_ne (List.ne_of_not_mem_cons hc).symm
    have hcn : (c == '\n') = false := beq_false_of_ne (List.ne_of_not_mem_cons hn).symm
    rw [List.cons_append, header?, hco, hcc, hcn, ih (List.not_mem_of_not_mem_cons ho)
        (List.not_mem_of_not_mem_cons hc) (List.not_mem_of_not_mem_cons hn)]
    rfl

/-! ## Scans -/

variable {k : Keyword} {b : Bool}

theorem scanFrom_nil (k : Keyword) (pos depth : Nat) (b : Bool) :
    scanFrom k pos depth b [] = {} := by
  rw [scanFrom]

theorem scanFrom_open (k : Keyword) (pos depth : Nat) (b : Bool) (t : Text) :
    scanFrom k pos depth b ('\x7b' :: t) = scanFrom k (pos + 1) (depth + 1) true t := by
  rw [scanFrom]
  rfl

theorem scanFrom_close (k : Keyword) (pos depth : Nat) (b : Bool) (t : Text) :
    scanFrom k pos depth b ('\x7d' :: t) = scanFrom k (pos + 1) (depth - 1) true t := by
  rw [scanFrom]
  rfl

/-- A character at which no block is read is passed over. -/
theorem scanFrom_cons {c : Char} (pos depth : Nat) (ho : c ≠ '\x7b') (hc : c ≠ '\x7d')
    (h : Opening.readIf (depth == 0 && b) k (c :: t) = .none) :
    scanFrom k pos depth b (c :: t) = scanFrom k (pos + 1) depth (boundsKeyword c) t := by
  rw [scanFrom, if_neg (by simpa using ho), if_neg (by simpa using hc)]
  split
  · rfl
  all_goals
    rename_i hr
    rw [h] at hr
    cases hr

/-- A block that is read is found where it begins, and the scan goes on behind its option groups. -/
theorem scanFrom_cons_block {c : Char} {header body trailer after : Text} {lead : Nat}
    (ho : c ≠ '\x7b') (hc : c ≠ '\x7d')
    (h : Opening.read k (c :: t) = .block lead header body trailer after) (pos : Nat) :
    scanFrom k pos 0 true (c :: t) =
      (scanFrom k (pos + lead + header.length + 1 + body.length + 1 + trailer.length) 0
        trailer.isEmpty after).consBlock
        ⟨pos, ⟨pos + lead, header⟩, ⟨pos + lead + header.length + 1, body⟩,
          ⟨pos + lead + header.length + 1 + body.length + 1, trailer⟩⟩ := by
  have hi : Opening.readIf (0 == 0 && true) k (c :: t) = .block lead header body trailer after := h
  rw [scanFrom, if_neg (by simpa using ho), if_neg (by simpa using hc)]
  split
  case h_4 hr =>
    rw [hi] at hr
    cases hr
    rfl
  all_goals
    rename_i hr
    rw [hi] at hr
    cases hr

/-- A scan inside braces goes through a balanced text and out at the brace after it. -/
theorem scanFrom_balanced (h : Balanced t) (pos depth : Nat) (b : Bool) (s : Text) :
    scanFrom k pos (depth + 1) b (t ++ '\x7d' :: s) =
      scanFrom k (pos + t.length + 1) depth true s := by
  induction h generalizing pos depth b s with
  | nil => exact scanFrom_close ..
  | @char c t ho hc _ ih =>
    rw [List.cons_append, scanFrom_cons _ _ ho hc rfl, ih]
    simp only [List.length_cons]
    congr 1
    omega
  | @braces t u _ _ iht ihu =>
    rw [List.append_assoc, List.cons_append, List.cons_append, scanFrom_open, iht, ihu]
    simp only [List.length_append, List.length_cons]
    congr 1
    omega

end PageRules.RuleText
