import Mathlib
import PageRules.Scope

/-!
# Patterns with a deep end

Behind a pattern that can be read, `/**` reads as one more token, unless the pattern ends in a deep
token already, which then stays as it is (`read_append_catchAll`).
-/

namespace PageRules.Glob

variable {prev : Option Char} {r s : Reader} {c : Char} {t x rest : Text} {ts : List Token}

/-! ## Two stars -/

theorem finish_eq_ok (h : r.finish = .ok ts) : r.groups = [] ∧ ts = r.tokens.reverse := by
  unfold Reader.finish at h
  split at h
  · rename_i hg
    cases h
    exact ⟨hg, rfl⟩
  · cases h

theorem finish_of_groups (h : r.groups = []) : r.finish = .ok r.tokens.reverse := by
  rw [Reader.finish, h]

theorem groups_pushDeep (r : Reader) (t : Token) : (r.pushDeep t).groups = r.groups := by
  unfold Reader.pushDeep
  split
  · rfl
  · rfl
  · rfl
  · rfl

theorem tokens_pushDeep_ne_nil (r : Reader) (t : Token) : (r.pushDeep t).tokens ≠ [] := by
  unfold Reader.pushDeep
  split
  · rename_i h
    rw [h]
    exact List.cons_ne_nil _ _
  · rename_i h
    rw [h]
    exact List.cons_ne_nil _ _
  · exact List.cons_ne_nil _ _
  · exact List.cons_ne_nil _ _

/-- A deep token takes the place of one that separators stand around. -/
theorem pushDeep_deepBetween (h : r.tokens ≠ []) :
    (r.pushDeep .deepBetween).pushDeep .deepLast = r.pushDeep .deepLast := by
  obtain ⟨tokens, groups⟩ := r
  obtain ⟨a, tokens, rfl⟩ := List.exists_cons_of_ne_nil h
  cases a with
  | _ => rfl

/-- What two stars may add, and that they take a separator only where one stands. -/
theorem doubleStar_cases (prev : Option Char) (r : Reader) (rest : Text) :
    (r.doubleStar prev rest).1.tokens ≠ [] ∧ (r.doubleStar prev rest).1.groups = r.groups ∧
      ((r.doubleStar prev rest).2 = true → ∃ more, rest = '/' :: more) := by
  unfold Reader.doubleStar
  dsimp only
  split
  · split
    · exact ⟨List.cons_ne_nil _ _, rfl, by rintro ⟨⟩⟩
    · split
      · rename_i hc
        exact ⟨List.cons_ne_nil _ _, rfl, fun _ => ⟨_, by rw [eq_of_beq hc]⟩⟩
      · exact ⟨List.cons_ne_nil _ _, rfl, by rintro ⟨⟩⟩
  split
  · exact ⟨List.cons_ne_nil _ _, rfl, by rintro ⟨⟩⟩
  split
  · exact ⟨tokens_pushDeep_ne_nil _ _, groups_pushDeep .., by rintro ⟨⟩⟩
  split
  · exact ⟨tokens_pushDeep_ne_nil _ _, groups_pushDeep .., by rintro ⟨⟩⟩
  split
  · rename_i hc
    exact ⟨tokens_pushDeep_ne_nil _ _, groups_pushDeep .., fun _ => ⟨_, by rw [eq_of_beq hc]⟩⟩
  · exact ⟨List.cons_ne_nil _ _, rfl, by rintro ⟨⟩⟩

/-- Only the character that follows them matters to two stars. -/
theorem doubleStar_append (h : rest ≠ []) (w : Text) :
    r.doubleStar prev (rest ++ w) = r.doubleStar prev rest := by
  cases rest with
  | nil => exact absurd rfl h
  | cons c rest => rfl

/-- Two stars at the end are read in no group. -/
theorem groups_of_readFrom_stars (h : readFrom prev r ['*', '*'] = .ok ts) : r.groups = [] := by
  have hgroups := (doubleStar_cases prev r []).2.1
  rw [readFrom] at h
  split at h
  · rename_i hd
    rw [hd] at hgroups
    rw [List.drop_nil, readFrom] at h
    rw [← hgroups]
    exact (finish_eq_ok h).1
  · rename_i hd
    rw [hd] at hgroups
    rw [readFrom] at h
    rw [← hgroups]
    exact (finish_eq_ok h).1

/-- Behind a separator they are the last token of the pattern. -/
theorem readFrom_stars (hg : r.groups = []) (ht : r.tokens ≠ []) :
    readFrom (some '/') r ['*', '*'] = .ok (r.pushDeep .deepLast).tokens.reverse := by
  have hd : r.doubleStar (some '/') [] = (r.pushDeep .deepLast, false) := by
    unfold Reader.doubleStar
    rw [if_neg (by simpa using ht)]
    rfl
  rw [readFrom, hd]
  dsimp only
  rw [readFrom, finish_of_groups ((groups_pushDeep r _).trans hg)]

/-- The characters that stand for more than themselves in a pattern. A comma does so in a group. -/
def specials : Text := ['?', '*', '[', '\x7b', '\x7d', '\\']

theorem readFrom_literal (hc : c ∉ specials) (hcomma : c ≠ ',') (prev : Option Char) (r : Reader)
    (rest : Text) :
    readFrom prev r (c :: rest) = readFrom (some c) (r.push (.literal c)) rest := by
  simp only [specials, List.mem_cons, List.not_mem_nil, or_false, not_or] at hc
  obtain ⟨hany, hrun, hclass, hopen, hclose, hescape⟩ := hc
  exact readFrom.eq_11 prev r c rest hany (fun _ h _ => hrun h) hrun hclass hopen hclose hcomma
    (fun _ _ h _ => hescape h) fun h _ => hescape h

/-- A separator and two stars are one token more. -/
theorem readFrom_catchAll (hg : r.groups = []) :
    readFrom prev r catchAllPattern = .ok (r.tokens.reverse ++ [.deepLast]) := by
  have hstars : readFrom (some '/') (r.push (.literal '/')) ['*', '*'] = _ :=
    readFrom_stars hg (List.cons_ne_nil _ _)
  have hstep : readFrom prev r catchAllPattern =
      readFrom (some '/') (r.push (.literal '/')) ['*', '*'] :=
    readFrom_literal (by decide) (by decide) prev r _
  rw [hstep, hstars]
  exact congrArg Except.ok List.reverse_cons

/-! ## Deep ends -/

/-- A text that is read from a place on ends in a deep token. -/
def DeepEnd (prev : Option Char) (r : Reader) (t : Text) : Prop :=
  catchAllPattern <:+ t ∨ t = ['*', '*'] ∧ (r.tokens = [] ∨ prev = some '/')

instance (prev : Option Char) (r : Reader) (t : Text) : Decidable (DeepEnd prev r t) :=
  inferInstanceAs (Decidable (_ ∨ _ ∧ (_ ∨ _)))

/-- The tokens of a text that `/**` follows. -/
def withDeepEnd (prev : Option Char) (r : Reader) (t : Text) (ts : List Token) : List Token :=
  if DeepEnd prev r t then ts else ts ++ [.deepLast]

/-- What stands in front of a deep end can be read first, by a reader that has begun then. -/
theorem deepEnd_append (hlength : DeepEnd prev r (x ++ c :: rest) → 2 ≤ rest.length)
    (hbegun : rest = ['*', '*'] → s.tokens ≠ []) :
    DeepEnd prev r (x ++ c :: rest) ↔ DeepEnd (some c) s rest := by
  constructor
  · intro h
    have hlength := hlength h
    rcases h with h | ⟨h, -⟩
    · have hbehind : rest <:+ x ++ c :: rest :=
        (List.suffix_cons c rest).trans (List.suffix_append ..)
      rcases Nat.lt_or_ge 2 rest.length with hlt | hle
      · exact .inl (List.suffix_of_suffix_length_le h hbehind hlt)
      · have heq : catchAllPattern = c :: rest := by
          refine (List.suffix_of_suffix_length_le h (List.suffix_append x _) ?_).eq_of_length ?_
          · rw [List.length_cons]
            exact Nat.succ_le_succ hlength
          · rw [List.length_cons, Nat.le_antisymm hle hlength]
            rfl
        obtain ⟨rfl, rfl⟩ := List.cons.inj heq
        exact .inr ⟨rfl, .inr rfl⟩
    · have := congrArg List.length h
      rw [List.length_append, List.length_cons] at this
      simp at this
      omega
  · rintro (h | ⟨rfl, h⟩)
    · exact .inl (h.trans ((List.suffix_cons c rest).trans (List.suffix_append ..)))
    · obtain rfl : c = '/' := Option.some.inj (h.resolve_left (hbegun rfl))
      exact .inl (List.suffix_append x _)

theorem withDeepEnd_append (hlength : DeepEnd prev r (x ++ c :: rest) → 2 ≤ rest.length)
    (hbegun : rest = ['*', '*'] → s.tokens ≠ []) (ts : List Token) :
    withDeepEnd prev r (x ++ c :: rest) ts = withDeepEnd (some c) s rest ts := by
  rw [withDeepEnd, withDeepEnd, if_congr (deepEnd_append hlength hbegun) rfl rfl]

/-- Behind any character but a star, a deep end has two characters left at least. -/
theorem DeepEnd.length_of_ne (h : DeepEnd prev r (x ++ c :: rest)) (hc : c ≠ '*') :
    2 ≤ rest.length := by
  rcases h with ⟨w, hw⟩ | ⟨h, -⟩
  · match rest with
    | [] =>
      have hlast : (w ++ ['/', '*']) ++ ['*'] = x ++ [c] := by rw [← hw, List.append_assoc]; rfl
      exact absurd (List.append_inj' hlast rfl).2 (by simpa using hc.symm)
    | [d] =>
      have hlast : (w ++ ['/']) ++ ['*', '*'] = x ++ [c, d] := by
        rw [← hw, List.append_assoc]; rfl
      exact absurd (List.cons.inj (List.append_inj' hlast rfl).2).1.symm hc
    | _ :: _ :: _ => exact Nat.le_add_left ..
  · have hmem : c ∈ ['*', '*'] := h ▸ List.mem_append_right x List.mem_cons_self
    exact absurd (List.eq_of_mem_replicate (n := 2) hmem) hc

/-- Nor can a deep end begin with two characters of which the first is no separator. -/
theorem DeepEnd.length_of_cons {a : Char} (h : DeepEnd prev r (a :: c :: rest)) (ha : a ≠ '/')
    (hstars : a :: c :: rest ≠ ['*', '*']) : 2 ≤ rest.length := by
  rcases h with h | ⟨h, -⟩
  · match rest with
    | [] => exact absurd h.length_le (by simp [catchAllPattern])
    | [d] => exact absurd (List.cons.inj (h.eq_of_length rfl)).1.symm ha
    | _ :: _ :: _ => exact Nat.le_add_left ..
  · exact absurd h hstars

/-- A star alone is not the first character of a deep end. -/
theorem DeepEnd.length_of_star (h : DeepEnd prev r ('*' :: rest))
    (hrest : ∀ more, rest ≠ '*' :: more) : 2 ≤ rest.length := by
  rcases h with h | ⟨h, -⟩
  · exact Nat.le_of_succ_le_succ h.length_le
  · exact absurd (List.cons.inj h).2 (hrest [])

/-! ## Classes -/

theorem readClass_append {state : ClassState} {after : Text} {ranges : List (Char × Char)}
    (h : readClass state t = .ok (ranges, after)) (w : Text) :
    readClass state (t ++ w) = .ok (ranges, after ++ w) ∧ ∃ body, t = body ++ ']' :: after := by
  induction t generalizing state with
  | nil => cases h
  | cons c t ih =>
    rw [List.cons_append]
    unfold readClass at h ⊢
    split at h
    · rename_i hc
      rw [Bool.and_eq_true, beq_iff_eq] at hc
      cases h
      rw [if_pos (by rw [hc.1, hc.2]; rfl), hc.1]
      exact ⟨rfl, [], rfl⟩
    · rename_i hc
      rw [if_neg hc]
      cases hadd : state.add c with
      | error e =>
        rw [hadd] at h
        cases h
      | ok state' =>
        rw [hadd] at h
        obtain ⟨hread, body, rfl⟩ := ih h
        exact ⟨hread, c :: body, rfl⟩

/-- A class is read the same, however the text goes on behind its closing bracket. -/
theorem readClass_negation_append {after : Text} {ranges : List (Char × Char)}
    (h : readClass {} (negation t).2 = .ok (ranges, after)) (w : Text) :
    (negation (t ++ w)).1 = (negation t).1 ∧
      readClass {} (negation (t ++ w)).2 = .ok (ranges, after ++ w) ∧
      ∃ body, t = body ++ ']' :: after := by
  obtain ⟨hread, body, hbody⟩ := readClass_append h w
  cases t with
  | nil => cases h
  | cons c t =>
    by_cases hc : (c == '!' || c == '^') = true
    · have hneg (t : Text) : negation (c :: t) = (true, t) := if_pos hc
      rw [hneg] at hread hbody
      rw [List.cons_append, hneg, hneg]
      exact ⟨rfl, hread, c :: body, congrArg (c :: ·) hbody⟩
    · have hneg (t : Text) : negation (c :: t) = (false, c :: t) := if_neg hc
      rw [hneg] at hread hbody
      rw [List.cons_append, hneg, hneg]
      exact ⟨rfl, hread, body, hbody⟩

/-! ## Patterns

### Two stars at the end -/

/-- At the start of a pattern they are its first token, and `/**` behind them is its second. -/
theorem readFrom_stars_first (ht : r.tokens = []) (hg : r.groups = [])
    (h : readFrom prev r ['*', '*'] = .ok ts) :
    readFrom prev r ('*' :: '*' :: catchAllPattern) = .ok ts := by
  have hempty : r.tokens.isEmpty = true := by rw [ht]; rfl
  have hfirst : r.doubleStar prev [] = (r.push .deepFirst, false) := by
    unfold Reader.doubleStar
    rw [if_pos hempty]
  have hmore : r.doubleStar prev catchAllPattern = (r.push .deepFirst, true) := by
    unfold Reader.doubleStar
    rw [if_pos hempty]
    rfl
  rw [readFrom, hfirst] at h
  dsimp only at h
  rw [readFrom, finish_of_groups (r := r.push .deepFirst) hg] at h
  rw [readFrom, hmore, ← h]
  exact readFrom_stars hg (List.cons_ne_nil _ _)

/-- Behind a separator they are the last token, and they still are with `/**` behind them. -/
theorem readFrom_stars_between (ht : r.tokens ≠ []) (hg : r.groups = [])
    (h : readFrom (some '/') r ['*', '*'] = .ok ts) :
    readFrom (some '/') r ('*' :: '*' :: catchAllPattern) = .ok ts := by
  have hmore : r.doubleStar (some '/') catchAllPattern = (r.pushDeep .deepBetween, true) := by
    unfold Reader.doubleStar
    rw [if_neg (by simpa using ht), hg]
    rfl
  rw [← h, readFrom_stars hg ht, readFrom, hmore]
  dsimp only
  rw [← pushDeep_deepBetween ht]
  exact readFrom_stars ((groups_pushDeep r _).trans hg) (tokens_pushDeep_ne_nil r _)

/-- Anywhere else they are two runs inside a segment. -/
theorem readFrom_stars_inside (ht : r.tokens ≠ []) (hg : r.groups = []) (hprev : prev ≠ some '/')
    (h : readFrom prev r ['*', '*'] = .ok ts) :
    readFrom prev r ('*' :: '*' :: catchAllPattern) = .ok (ts ++ [.deepLast]) := by
  have hplain (rest : Text) : r.doubleStar prev rest = ((r.push .run).push .run, false) := by
    unfold Reader.doubleStar
    rw [if_neg (by simpa using ht), hg]
    simp [hprev]
  rw [readFrom, hplain] at h ⊢
  dsimp only at h ⊢
  rw [readFrom] at h
  obtain ⟨-, rfl⟩ := finish_eq_ok h
  exact readFrom_catchAll hg

/-- Two stars that end a pattern, with `/**` behind them. -/
theorem readFrom_stars_append (h : readFrom prev r ['*', '*'] = .ok ts) :
    readFrom prev r (['*', '*'] ++ catchAllPattern) = .ok (withDeepEnd prev r ['*', '*'] ts) := by
  have hg := groups_of_readFrom_stars h
  by_cases ht : r.tokens = []
  · rw [withDeepEnd, if_pos (.inr ⟨rfl, .inl ht⟩)]
    exact readFrom_stars_first ht hg h
  by_cases hprev : prev = some '/'
  · subst hprev
    rw [withDeepEnd, if_pos (.inr ⟨rfl, .inr rfl⟩)]
    exact readFrom_stars_between ht hg h
  · have hdeep : ¬ DeepEnd prev r ['*', '*'] := by
      rintro (hs | ⟨-, hs | hs⟩)
      · exact absurd hs.length_le (by decide)
      · exact ht hs
      · exact hprev hs
    rw [withDeepEnd, if_neg hdeep]
    exact readFrom_stars_inside ht hg hprev h

/-! ### Steps of the reader

A step takes the reader to the place behind a character. What stands further on does not change it.
A reader that has made one step has a token at hand or stands in a group. -/

/-- Two stars that take a separator stand in front of one. -/
theorem readFrom_separator (hd : r.doubleStar prev rest = (s, true)) :
    ∃ more, rest = '/' :: more ∧ ∀ w, readFrom prev r ('*' :: '*' :: '/' :: (more ++ w)) =
      readFrom (some '/') s (more ++ w) := by
  obtain ⟨-, -, hslash⟩ := doubleStar_cases prev r rest
  rw [hd] at hslash
  obtain ⟨more, rfl⟩ := hslash rfl
  refine ⟨more, rfl, fun w => ?_⟩
  have hmore : r.doubleStar prev ('/' :: (more ++ w)) = (s, true) :=
    (doubleStar_append (List.cons_ne_nil '/' more) w).trans hd
  rw [readFrom, hmore]
  rfl

theorem readFrom_doubleStar (hd : r.doubleStar prev rest = (s, false)) (hrest : rest ≠ [])
    (w : Text) :
    readFrom prev r ('*' :: '*' :: (rest ++ w)) = readFrom (some '*') s (rest ++ w) := by
  rw [readFrom, doubleStar_append hrest, hd]

/-- A star stays alone in front of `/**`. -/
theorem readFrom_star (hrest : ∀ more, rest ≠ '*' :: more) :
    readFrom prev r ('*' :: (rest ++ catchAllPattern)) =
      readFrom (some '*') (r.push .run) (rest ++ catchAllPattern) := by
  rw [readFrom]
  intro more hmore
  cases rest with
  | nil => cases hmore
  | cons a rest =>
    obtain ⟨rfl, -⟩ := List.cons.inj hmore
    exact hrest rest rfl

/-- A class is passed with its closing bracket. -/
theorem readFrom_class {after : Text} {ranges : List (Char × Char)}
    (hclass : readClass {} (negation rest).2 = .ok (ranges, after)) :
    ∃ body, rest = body ++ ']' :: after ∧ ∀ w, readFrom prev r ('[' :: (rest ++ w)) =
      readFrom (some ']') (r.push (.charClass (negation rest).1 ranges)) (after ++ w) := by
  obtain ⟨-, -, body, hbody⟩ := readClass_negation_append hclass []
  refine ⟨body, hbody, fun w => ?_⟩
  obtain ⟨hneg, hread, -⟩ := readClass_negation_append hclass w
  rw [readFrom, hread, hneg]

theorem tokens_closeGroup_ne_nil (h : r.closeGroup = .ok s) : s.tokens ≠ [] := by
  unfold Reader.closeGroup at h
  split at h
  · cases h
  · cases h
    exact List.cons_ne_nil _ _

/-- A comma outside of groups is a character, and one inside leaves the group open. -/
theorem tokens_comma_ne_nil (h : r.comma.groups = []) : r.comma.tokens ≠ [] := by
  cases hgroups : r.groups with
  | nil =>
    rw [Reader.comma, hgroups]
    exact List.cons_ne_nil _ _
  | cons g groups =>
    rw [Reader.comma, hgroups] at h
    cases h

/-- Behind a step to the place behind the character `c`, the rest decides on the end. -/
theorem readFrom_append_step (hread : readFrom prev r (x ++ c :: rest ++ catchAllPattern) =
      readFrom (some c) s (rest ++ catchAllPattern))
    (hlength : DeepEnd prev r (x ++ c :: rest) → 2 ≤ rest.length)
    (hbegun : s.groups = [] → s.tokens ≠ []) (h : readFrom (some c) s rest = .ok ts)
    (ih : readFrom (some c) s (rest ++ catchAllPattern) = .ok (withDeepEnd (some c) s rest ts)) :
    readFrom prev r (x ++ c :: rest ++ catchAllPattern) =
      .ok (withDeepEnd prev r (x ++ c :: rest) ts) := by
  have hstars : rest = ['*', '*'] → s.tokens ≠ [] := by
    rintro rfl
    exact hbegun (groups_of_readFrom_stars h)
  rw [hread, ih, withDeepEnd_append hlength hstars]

/-- A step over one character other than a star. -/
theorem readFrom_cons_step (hc : c ≠ '*')
    (hread : readFrom prev r (c :: (rest ++ catchAllPattern)) =
      readFrom (some c) s (rest ++ catchAllPattern))
    (hbegun : s.groups = [] → s.tokens ≠ []) (h : readFrom (some c) s rest = .ok ts)
    (ih : readFrom (some c) s (rest ++ catchAllPattern) = .ok (withDeepEnd (some c) s rest ts)) :
    readFrom prev r (c :: rest ++ catchAllPattern) = .ok (withDeepEnd prev r (c :: rest) ts) :=
  readFrom_append_step (x := []) hread (fun hdeep => hdeep.length_of_ne (x := []) hc) hbegun h ih

/-! ### The whole pattern -/

theorem readFrom_nil_append (h : r.finish = .ok ts) :
    readFrom prev r catchAllPattern = .ok (withDeepEnd prev r [] ts) := by
  obtain ⟨hg, rfl⟩ := finish_eq_ok h
  have hdeep : ¬ DeepEnd prev r [] := by
    rintro (hs | ⟨hs, -⟩)
    · exact absurd hs.length_le (by decide)
    · cases hs
  rw [withDeepEnd, if_neg hdeep]
  exact readFrom_catchAll hg

/-- Behind a text that can be read, `/**` is one token more, or it is none where the text ends in a
deep token. By induction on the run of the reader. -/
theorem readFrom_append_catchAll (h : readFrom prev r t = .ok ts) :
    readFrom prev r (t ++ catchAllPattern) = .ok (withDeepEnd prev r t ts) := by
  fun_induction readFrom prev r t with
  | case1 prev r => exact readFrom_nil_append h
  | case2 prev r rest ih =>
    exact readFrom_cons_step (by decide) (by rw [readFrom]) (fun _ => List.cons_ne_nil _ _) h (ih h)
  | case3 prev r rest s hd ih =>
    have hbegun : s.tokens ≠ [] := by simpa only [hd] using (doubleStar_cases prev r rest).1
    obtain ⟨more, rfl, hread⟩ := readFrom_separator hd
    exact readFrom_append_step (x := ['*', '*']) (hread _) (·.length_of_ne (by decide))
      (fun _ => hbegun) h (ih h)
  | case4 prev r rest s hd ih =>
    have hbegun : s.tokens ≠ [] := by simpa only [hd] using (doubleStar_cases prev r rest).1
    cases rest with
    | nil => exact readFrom_stars_append (by rw [readFrom, hd]; exact h)
    | cons a rest =>
      have hread := readFrom_doubleStar hd (List.cons_ne_nil a rest) catchAllPattern
      exact readFrom_append_step (x := ['*']) hread
        (·.length_of_cons (by decide) (by simp)) (fun _ => hbegun) h (ih h)
  | case5 prev r rest hrest ih =>
    exact readFrom_append_step (x := []) (readFrom_star hrest) (·.length_of_star hrest)
      (fun _ => List.cons_ne_nil _ _) h (ih h)
  | case6 prev r rest ranges after hclass ih =>
    obtain ⟨body, rfl, hread⟩ := readFrom_class hclass
    exact readFrom_append_step (x := '[' :: body) (hread _) (·.length_of_ne (by decide))
      (fun _ => List.cons_ne_nil _ _) h (ih h)
  | case7 => cases h
  | case8 prev r rest ih =>
    exact readFrom_cons_step (by decide) (by rw [readFrom])
      (fun hgroups => absurd hgroups (List.cons_ne_nil _ _)) h (ih h)
  | case9 prev r rest s hclose ih =>
    exact readFrom_cons_step (by decide) (by rw [readFrom, hclose])
      (fun _ => tokens_closeGroup_ne_nil hclose) h (ih h)
  | case10 => cases h
  | case11 prev r rest ih =>
    exact readFrom_cons_step (by decide) (by rw [readFrom]) tokens_comma_ne_nil h (ih h)
  | case12 prev r c rest ih =>
    have hread : readFrom prev r ('\\' :: c :: (rest ++ catchAllPattern)) =
        readFrom (some c) (r.push (.literal c)) (rest ++ catchAllPattern) := by rw [readFrom]
    exact readFrom_append_step (x := ['\\']) hread (·.length_of_cons (by decide) (by simp))
      (fun _ => List.cons_ne_nil _ _) h (ih h)
  | case13 => cases h
  | case14 prev r c rest hany _ hrun hclass hopen hclose hcomma hescape hend ih =>
    have hc : c ∉ specials := by
      simp only [specials, List.mem_cons, List.not_mem_nil, or_false, not_or]
      refine ⟨hany, hrun, hclass, hopen, hclose, fun hc => ?_⟩
      cases rest with
      | nil => exact hend hc rfl
      | cons a rest => exact hescape a rest hc rfl
    exact readFrom_cons_step hrun (readFrom_literal hc hcomma ..) (fun _ => List.cons_ne_nil _ _) h
      (ih h)

/-- The pattern ends in a deep token. -/
def EndsDeep (pattern : Text) : Prop := catchAllPattern <:+ pattern ∨ pattern = ['*', '*']

instance (pattern : Text) : Decidable (EndsDeep pattern) :=
  inferInstanceAs (Decidable (_ ∨ _))

theorem read_append_catchAll {pattern : Text} (h : read pattern = .ok ts) :
    read (pattern ++ catchAllPattern) =
      .ok (if EndsDeep pattern then ts else ts ++ [.deepLast]) := by
  have hdeep : DeepEnd none {} pattern ↔ EndsDeep pattern :=
    or_congr Iff.rfl (and_iff_left (.inl rfl))
  rw [read, readFrom_append_catchAll h, withDeepEnd, if_congr hdeep rfl rfl]

/-- A pattern without special characters spells itself. -/
theorem read_plain {pattern : Text} (h : ∀ c ∈ pattern, c ∉ specials) :
    read pattern = .ok (pattern.map .literal) := by
  have hfrom (prev : Option Char) (r : Reader) (hg : r.groups = []) :
      readFrom prev r pattern = .ok (r.tokens.reverse ++ pattern.map .literal) := by
    induction pattern generalizing prev r with
    | nil => rw [readFrom, finish_of_groups hg, List.map_nil, List.append_nil]
    | cons c pattern ih =>
      have hstep : readFrom prev r (c :: pattern) =
          readFrom (some c) (r.push (.literal c)) pattern := by
        by_cases hc : c = ','
        · rw [hc, readFrom, Reader.comma, hg]
        · exact readFrom_literal (h c List.mem_cons_self) hc ..
      rw [hstep, ih (fun d hd => h d (List.mem_cons_of_mem _ hd)) _ (r.push (.literal c)) hg,
        Reader.push, List.reverse_cons, List.append_assoc]
      rfl
  exact hfrom none {} rfl

end PageRules.Glob
