import Mathlib
import PageRules.Proofs.RuleText.Balance
import PageRules.Proofs.RuleText.Option

/-!
# Scans of written blocks

A scan passes over lines without its keyword (`scanFrom_line`), reads a block of its keyword as it
was written (`scanFrom_block`), and with it every block of a list (`scanFrom_blocks`).
-/

namespace PageRules.RuleText

/-! ## Runs of option groups -/

theorem group?_eq_none {t : Text} (h : '[' ∉ (t.dropWhile Text.isSpace).head?) :
    group? t = none := by
  unfold group?
  split
  · rename_i hd
    rw [hd] at h
    exact absurd rfl h
  · rfl

theorem group?_newline {t : Text} (h : group? t = none) : group? ('\n' :: t) = none := by
  have hd : ('\n' :: t).dropWhile Text.isSpace = t.dropWhile Text.isSpace := rfl
  unfold group? at h ⊢
  rw [hd]
  split
  · rename_i hb
    rw [hb] at h
    simpa using h
  · rfl

theorem optionRun_of_none {t : Text} (h : group? t = none) : optionRun t = ([], t) := by
  rw [optionRun]
  split
  · rename_i hg
    rw [h] at hg
    cases hg
  · rfl

theorem optionRun_of_some {t group after : Text} (h : group? t = some (group, after)) :
    optionRun t = (group ++ (optionRun after).1, (optionRun after).2) := by
  rw [optionRun]
  split
  · rename_i hg
    rw [h] at hg
    cases hg
    rfl
  · rename_i hg
    rw [h] at hg
    cases hg

/-- The group of the options is all that is taken after a block. -/
theorem optionRun_write {o : OptionSet} (h : o.Writable) {s : Text} (hs : group? s = none) :
    optionRun (o.write ++ s) = (o.write, s) := by
  unfold OptionSet.write
  split
  · exact optionRun_of_none hs
  · have hfree : ∀ c ∈ o.inside, (c == ']') = false :=
      Text.beq_eq_false_of_mem (h.free_inside.not_mem _ (by simp))
    have hg : group? (' ' :: '[' :: o.inside ++ [']'] ++ s) =
        some (' ' :: '[' :: o.inside ++ [']'], s) := by
      have hd : (' ' :: '[' :: o.inside ++ [']'] ++ s).dropWhile Text.isSpace =
          '[' :: (o.inside ++ ']' :: s) := by
        simp [Text.isSpace]
      unfold group?
      rw [hd]
      simp [Text.splitOnce_append hfree, Text.isSpace]
    rw [optionRun_of_some hg, optionRun_of_none hs]
    simp

/-! ## What a scan passes over -/

variable {k : Keyword} {b : Bool} {d : Char} {t : Text}

theorem readIf_eq_none (h : b = true → k.after? t = none) : Opening.readIf b k t = .none := by
  unfold Opening.readIf
  cases b with
  | false => rfl
  | true =>
    unfold Opening.read
    rw [h rfl]
    rfl

/-- A scan passes over a text without its keyword up to a character that divides. -/
theorem scanFrom_pass (hd : k.Barrier d) (ho : '\x7b' ∉ t) (hc : '\x7d' ∉ t)
    (h : k.occurs b t = false) (pos : Nat) (s : Text) :
    ∃ b', scanFrom k pos 0 b (t ++ d :: s) = scanFrom k (pos + t.length) 0 b' (d :: s) := by
  induction t generalizing pos b with
  | nil => exact ⟨b, rfl⟩
  | cons c t ih =>
    rw [Keyword.occurs, Bool.or_eq_false_iff] at h
    obtain ⟨b', hb⟩ := ih (List.not_mem_of_not_mem_cons ho) (List.not_mem_of_not_mem_cons hc) h.2
      (pos + 1)
    have hr : Opening.readIf (0 == 0 && b) k (c :: (t ++ d :: s)) = .none := by
      refine readIf_eq_none fun hb => ?_
      have hn : k.after? (c :: t) = none := by simpa [show b = true from hb] using h.1
      rw [← List.cons_append, Keyword.after?_append_barrier hd, hn]
      rfl
    refine ⟨b', ?_⟩
    rw [List.cons_append, scanFrom_cons _ _ (List.ne_of_not_mem_cons ho).symm
      (List.ne_of_not_mem_cons hc).symm hr, hb, List.length_cons, Nat.add_assoc, Nat.add_comm 1]

/-- A line without the keyword. -/
theorem scanFrom_line (ho : '\x7b' ∉ t) (hc : '\x7d' ∉ t) (h : k.occurs b t = false) (pos : Nat)
    (s : Text) :
    scanFrom k pos 0 b (t ++ '\n' :: s) = scanFrom k (pos + t.length + 1) 0 true s := by
  obtain ⟨b', hb⟩ := scanFrom_pass (d := '\n') (Keyword.barrier_of_mem (by decide)) ho hc h
    pos s
  rw [hb, scanFrom_cons _ _ (by decide) (by decide)]
  · rfl
  · have hn : k.Barrier '\n' := Keyword.barrier_of_mem (by decide)
    exact readIf_eq_none fun _ => Keyword.after?_cons_of_not_letter hn.not_letter s

/-- Lines without the keyword. -/
theorem scanFrom_unlines {lines : List Text}
    (h : ∀ t ∈ lines, '\x7b' ∉ t ∧ '\x7d' ∉ t ∧ k.occurs true t = false) (pos : Nat) (s : Text) :
    scanFrom k pos 0 true (Text.unlines lines ++ s) =
      scanFrom k (pos + (Text.unlines lines).length) 0 true s := by
  induction lines generalizing pos with
  | nil => rfl
  | cons t lines ih =>
    obtain ⟨ho, hc, hk⟩ := h t List.mem_cons_self
    rw [Text.unlines_cons, List.append_assoc, List.cons_append, scanFrom_line ho hc hk,
      ih fun u hu => h u (List.mem_cons_of_mem _ hu)]
    simp only [List.length_append, List.length_cons]
    congr 1
    omega

theorem scanFrom_newline (k : Keyword) (b : Bool) (pos : Nat) (s : Text) :
    scanFrom k pos 0 b ('\n' :: s) = scanFrom k (pos + 1) 0 true s :=
  scanFrom_line (t := []) (by simp) (by simp) rfl pos s

/-- The header of a block of another keyword. -/
theorem scanFrom_header (ho : '\x7b' ∉ t) (hc : '\x7d' ∉ t) (h : k.occurs b t = false) (pos : Nat)
    (s : Text) :
    scanFrom k pos 0 b (t ++ '\x7b' :: s) = scanFrom k (pos + t.length + 1) 1 true s := by
  obtain ⟨b', hb⟩ := scanFrom_pass (d := '\x7b') (Keyword.barrier_of_mem (by decide)) ho hc h pos s
  rw [hb, scanFrom_open]

theorem scanFrom_indent (ht : ∀ c ∈ t, c = ' ') (pos : Nat) (s : Text) :
    scanFrom k pos 0 true (t ++ s) = scanFrom k (pos + t.length) 0 true s := by
  induction t generalizing pos with
  | nil => rfl
  | cons c t ih =>
    obtain rfl : c = ' ' := ht c List.mem_cons_self
    have hl : ' '.toLower ∉ k.name := by cases k <;> decide
    have hr : Opening.readIf (0 == 0 && true) k (' ' :: (t ++ s)) = .none :=
      readIf_eq_none fun _ => Keyword.after?_cons_of_not_letter hl _
    rw [List.cons_append, scanFrom_cons _ _ (by decide) (by decide) hr, List.length_cons,
      Nat.add_comm t.length, ← Nat.add_assoc]
    exact ih (fun c hc => ht c (List.mem_cons_of_mem _ hc)) (pos + 1)

theorem scanFrom_indent_end (ht : ∀ c ∈ t, c = ' ') (k : Keyword) (pos : Nat) :
    scanFrom k pos 0 true t = {} := by
  rw [← List.append_nil t, scanFrom_indent ht, scanFrom_nil]

/-! ## The text of a block -/

/-- From the keyword up to the opening brace. -/
def headText (k : Keyword) (header : Text) : Text := k.name ++ ':' :: (' ' :: header ++ [' '])

/-- Between the braces. -/
def bodyText (indent : Text) (inner : List Text) : Text := '\n' :: Text.unlines inner ++ indent

/-- From the keyword to the end of the options. -/
def blockText (indent : Text) (k : Keyword) (header : Text) (inner : List Text) (options : Text) :
    Text :=
  headText k header ++ '\x7b' :: (bodyText indent inner ++ '\x7d' :: options)

theorem unlines_blockLines (indent : Text) (k : Keyword) (header : Text) (inner : List Text)
    (options s : Text) :
    Text.unlines (blockLines indent k header inner options) ++ s =
      indent ++ (headText k header ++ '\x7b' ::
        (bodyText indent inner ++ '\x7d' :: (options ++ '\n' :: s))) := by
  simp [blockLines, headText, bodyText, Text.unlines]

theorem unlines_blockLines_eq_blockText (indent : Text) (k : Keyword) (header : Text)
    (inner : List Text) (options s : Text) :
    Text.unlines (blockLines indent k header inner options) ++ s =
      indent ++ (blockText indent k header inner options ++ '\n' :: s) := by
  simp [unlines_blockLines, blockText]

/-- The block that is read where one was written at a position. -/
def Block.written (pos : Nat) (indent : Text) (k : Keyword) (header : Text) (inner : List Text)
    (options : Text) : Block :=
  let headerStart := pos + indent.length + (k.name.length + 1)
  let bodyStart := headerStart + (header.length + 2) + 1
  let trailerStart := bodyStart + (bodyText indent inner).length + 1
  { start := pos + indent.length
    header := ⟨headerStart, ' ' :: header ++ [' ']⟩
    body := ⟨bodyStart, bodyText indent inner⟩
    trailer := ⟨trailerStart, options⟩ }

theorem Block.hole_written (pos : Nat) (indent : Text) (k : Keyword) (header : Text)
    (inner : List Text) (options : Text) :
    (written pos indent k header inner options).hole =
      ⟨pos + indent.length,
        pos + indent.length + (blockText indent k header inner options).length⟩ := by
  unfold hole stop written Fragment.stop blockText headText
  simp only [List.length_append, List.length_cons, List.length_nil, Hole.mk.injEq, true_and]
  omega

/-! ## Blocks -/

/-- What a block needs so that it is read as it was written. -/
structure BlockText (header : Text) (inner : List Text) (options : Text) : Prop where
  header_chars : '\x7b' ∉ header ∧ '\x7d' ∉ header ∧ '\n' ∉ header
  inner_balanced : Balanced (Text.unlines inner)
  options_chars : '\x7b' ∉ options ∧ '\x7d' ∉ options
  trailer : ∀ s, group? s = none → optionRun (options ++ s) = (options, s)

section

variable {indent header options : Text} {inner : List Text}
  (hi : ∀ c ∈ indent, c = ' ') (h : BlockText header inner options)
include h

theorem BlockText.head_no_brace (k : Keyword) :
    '\x7b' ∉ headText k header ∧ '\x7d' ∉ headText k header := by
  have hn : '\x7b' ∉ k.name ∧ '\x7d' ∉ k.name := by cases k <;> exact ⟨by decide, by decide⟩
  unfold headText
  constructor
  · simp [hn.1, h.header_chars.1]
  · simp [hn.2, h.header_chars.2.1]

include hi

theorem BlockText.balanced_body : Balanced (bodyText indent inner) := by
  refine .char (by decide) (by decide) (h.inner_balanced.append (.of_not_mem ?_ ?_))
  · exact fun hc => absurd (hi _ hc) (by decide)
  · exact fun hc => absurd (hi _ hc) (by decide)

theorem BlockText.balanced (k : Keyword) :
    Balanced (Text.unlines (blockLines indent k header inner options)) := by
  have hindent : Balanced indent := by
    refine .of_not_mem ?_ ?_
    · exact fun hc => absurd (hi _ hc) (by decide)
    · exact fun hc => absurd (hi _ hc) (by decide)
  have hhead : Balanced (headText k header) :=
    .of_not_mem (h.head_no_brace k).1 (h.head_no_brace k).2
  have hoptions : Balanced (options ++ ['\n']) := by
    refine .of_not_mem ?_ ?_
    · simp [h.options_chars.1]
    · simp [h.options_chars.2]
  have hall := hindent.append (hhead.append (.braces (h.balanced_body hi) hoptions))
  rw [← List.append_nil (Text.unlines _), unlines_blockLines]
  simpa using hall

/-- A keyword reads its block as it was written. -/
theorem BlockText.read {s : Text} (hs : group? s = none) (k : Keyword) :
    Opening.read k (headText k header ++ '\x7b' ::
        (bodyText indent inner ++ '\x7d' :: (options ++ '\n' :: s))) =
      .block (k.name.length + 1) (' ' :: header ++ [' ']) (bodyText indent inner) options
        ('\n' :: s) := by
  have hheader (s : Text) : header? ((' ' :: header ++ [' ']) ++ '\x7b' :: s) =
      some (' ' :: header ++ [' '], s) := by
    refine header?_append ?_ ?_ ?_ s
    · simp [h.header_chars.1]
    · simp [h.header_chars.2.1]
    · simp [h.header_chars.2.2]
  unfold Opening.read
  rw [headText, List.append_assoc, List.cons_append, Keyword.after?_name]
  dsimp only
  rw [hheader]
  dsimp only
  rw [body?_balanced (h.balanced_body hi)]
  dsimp only
  rw [h.trailer _ (group?_newline hs)]
  congr 1
  rw [List.length_append, List.length_cons]
  omega

/-- A scan reads a block of its keyword as it was written. -/
theorem scanFrom_block {s : Text} (hs : group? s = none) (pos : Nat) :
    scanFrom k pos 0 true (Text.unlines (blockLines indent k header inner options) ++ s) =
      (scanFrom k (pos + (Text.unlines (blockLines indent k header inner options)).length) 0 true
        s).consBlock (.written pos indent k header inner options) := by
  have hlength := congrArg List.length (unlines_blockLines indent k header inner options [])
  have hread := h.read hi hs k
  obtain ⟨c, w, hk, -, hmarks⟩ := k.exists_name_eq_cons
  have ho : c ≠ '\x7b' := by rintro rfl; exact hmarks (by simp)
  have hc : c ≠ '\x7d' := by rintro rfl; exact hmarks (by simp)
  rw [unlines_blockLines, scanFrom_indent hi]
  rw [headText, hk, List.cons_append, List.cons_append] at hread ⊢
  rw [scanFrom_cons_block ho hc hread, scanFrom_newline, Block.written, hk]
  simp only [List.append_nil, List.length_append, List.length_cons, List.length_nil, headText, hk]
    at hlength ⊢
  congr 2
  omega

/-- A scan passes over a block without options of another keyword. -/
theorem scanFrom_foreign {j : Keyword} (ho : options = [])
    (hk : k.occurs true (indent ++ headText j header) = false) (pos : Nat) (s : Text) :
    scanFrom k pos 0 true (Text.unlines (blockLines indent j header inner options) ++ s) =
      scanFrom k (pos + (Text.unlines (blockLines indent j header inner options)).length) 0 true
        s := by
  subst ho
  have hlength := congrArg List.length (unlines_blockLines indent j header inner [] [])
  have hbrace {c : Char} (hc : c ≠ ' ') (hh : c ∉ headText j header) :
      c ∉ indent ++ headText j header := by
    rw [List.mem_append]
    rintro (hm | hm)
    · exact hc (hi c hm)
    · exact hh hm
  rw [unlines_blockLines, ← List.append_assoc,
    scanFrom_header (hbrace (by decide) (h.head_no_brace j).1)
      (hbrace (by decide) (h.head_no_brace j).2) hk,
    scanFrom_balanced (h.balanced_body hi), List.nil_append, scanFrom_newline]
  simp only [List.append_nil, List.length_append, List.length_cons, List.length_nil]
    at hlength ⊢
  congr 1
  omega

end

/-- Blocks of a keyword one after another are read as they were written. -/
theorem scanFrom_blocks {α : Type} (k : Keyword) (indent : Text) (header : α → Text)
    (inner : α → List Text) (options : α → Text) {l : List α} (hi : ∀ c ∈ indent, c = ' ')
    (h : ∀ a ∈ l, BlockText (header a) (inner a) (options a)) (pos : Nat) :
    ∃ blocks, scanFrom k pos 0 true (Text.unlines
        (l.flatMap fun a => blockLines indent k (header a) (inner a) (options a))) = { blocks } ∧
      List.Forall₂ (fun a b => ∃ pos, b = .written pos indent k (header a) (inner a) (options a))
        l blocks := by
  induction l generalizing pos with
  | nil => exact ⟨[], scanFrom_nil .., .nil⟩
  | cons a l ih =>
    obtain ⟨blocks, hscan, hblocks⟩ := ih (fun a ha => h a (List.mem_cons_of_mem _ ha))
      (pos + (Text.unlines (blockLines indent k (header a) (inner a) (options a))).length)
    have hg : group? (Text.unlines
        (l.flatMap fun a => blockLines indent k (header a) (inner a) (options a))) = none := by
      cases l with
      | nil => rfl
      | cons a l =>
        obtain ⟨c, w, hk, hs, hmarks⟩ := k.exists_name_eq_cons
        rw [List.flatMap_cons, Text.unlines_append, unlines_blockLines, headText, hk,
          List.cons_append, List.cons_append]
        refine group?_eq_none ?_
        rw [List.dropWhile_append_of_pos fun c hc => by rw [hi c hc]; rfl,
          List.dropWhile_cons_of_neg (by simp [hs])]
        rintro ⟨⟩
        exact hmarks (by simp)
    refine ⟨_ :: blocks, ?_, .cons ⟨pos, rfl⟩ hblocks⟩
    rw [List.flatMap_cons, Text.unlines_append, scanFrom_block hi (h a List.mem_cons_self) hg,
      hscan]
    rfl

end PageRules.RuleText
