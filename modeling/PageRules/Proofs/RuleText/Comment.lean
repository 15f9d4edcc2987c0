import Mathlib
import PageRules.Proofs.RuleText.Joined
import PageRules.Proofs.RuleText.Opening

/-!
# Comments

The comments of a text are found from left to right: one opens wherever its pair of characters
stands in no comment before it and in no header of a path, and goes on through the next pair that
closes it (`AreComments`). A text has exactly one list of comments, and its normal form is the text
with these comments blanked (`normalize_blanks_comments`).
-/

namespace PageRules.RuleText

variable {t u v : Text} {p q : Nat}

/-! ## Headers of paths -/

/-- The end of a line is in the header of a path: behind a keyword that something bounds and its
colon, with no brace in between. -/
def InHeader (line : Text) : Prop :=
  ∃ front name gap header, line = front ++ (name ++ (gap ++ ':' :: header)) ∧
    Text.lower name = Keyword.path.name ∧ (∀ c ∈ gap, Text.isGap c = true) ∧
    (∀ c ∈ front.getLast?, boundsHeader c = true) ∧ '\x7b' ∉ header ∧ '\x7d' ∉ header

theorem startsPathHeader_iff : startsPathHeader t = true ↔
    ∃ header, Keyword.path.after? t = some header ∧ '\x7b' ∉ header ∧ '\x7d' ∉ header := by
  unfold startsPathHeader
  cases Keyword.path.after? t with
  | none => simp
  | some header =>
    simp only [List.all_eq_true, Bool.and_eq_true, bne_iff_ne, Option.some.injEq,
      exists_eq_left']
    constructor
    · intro h
      exact ⟨fun hm => (h _ hm).1 rfl, fun hm => (h _ hm).2 rfl⟩
    · rintro ⟨ho, hc⟩ c hm
      exact ⟨fun h => ho (h ▸ hm), fun h => hc (h ▸ hm)⟩

/-- A search along a line comes upon every keyword that something bounds. -/
theorem inPathHeader_iff_exists {b : Bool} : inPathHeader b t = true ↔
    ∃ front rest, t = front ++ rest ∧ startsPathHeader rest = true ∧
      (front.getLast?.map boundsHeader).getD b = true := by
  induction t generalizing b with
  | nil =>
    constructor
    · intro h
      cases h
    · rintro ⟨front, rest, ht, hrest, -⟩
      obtain ⟨rfl, rfl⟩ := List.append_eq_nil_iff.mp ht.symm
      cases hrest
  | cons c t ih =>
    rw [inPathHeader, Bool.or_eq_true, Bool.and_eq_true, ih]
    constructor
    · rintro (⟨hb, hstart⟩ | ⟨front, rest, rfl, hrest, hfront⟩)
      · exact ⟨[], c :: t, rfl, hstart, hb⟩
      · refine ⟨c :: front, rest, rfl, hrest, ?_⟩
        cases hlast : front.getLast? with
        | none => simpa [List.getLast?_cons, hlast] using hfront
        | some d => simpa [List.getLast?_cons, hlast] using hfront
    · rintro ⟨front, rest, ht, hrest, hfront⟩
      cases front with
      | nil =>
        rw [List.nil_append] at ht
        exact .inl ⟨hfront, ht ▸ hrest⟩
      | cons d front =>
        obtain ⟨rfl, rfl⟩ := List.cons.inj ht
        refine .inr ⟨front, rest, rfl, hrest, ?_⟩
        cases hlast : front.getLast? with
        | none => simpa [List.getLast?_cons, hlast] using hfront
        | some d => simpa [List.getLast?_cons, hlast] using hfront

theorem inPathHeader_iff : inPathHeader true t = true ↔ InHeader t := by
  rw [inPathHeader_iff_exists]
  constructor
  · rintro ⟨front, rest, rfl, hrest, hfront⟩
    obtain ⟨header, hafter, hheader⟩ := startsPathHeader_iff.mp hrest
    obtain ⟨name, gap, rfl, hname, hgap⟩ := Keyword.after?_eq_some_iff.mp hafter
    refine ⟨front, name, gap, header, rfl, hname, hgap, fun c hc => ?_, hheader⟩
    rw [Option.mem_def.mp hc] at hfront
    exact hfront
  · rintro ⟨front, name, gap, header, rfl, hname, hgap, hfront, hheader⟩
    refine ⟨front, _, rfl, startsPathHeader_iff.mpr ⟨header, ?_, hheader⟩, ?_⟩
    · exact Keyword.after?_eq_some_iff.mpr ⟨name, gap, rfl, hname, hgap⟩
    · cases hlast : front.getLast? with
      | none => rfl
      | some c => exact hfront c hlast

/-! ## Places -/

/-- The two characters stand side by side at the position. -/
def PairAt (a b : Char) (t : Text) (p : Nat) : Prop := t[p]? = some a ∧ t[p + 1]? = some b

/-- What stands before the position on its line. -/
def lineBefore (t : Text) (p : Nat) : Text := Text.afterLast (· == '\n') (t.take p)

/-- The place of a position in a text. -/
def placeAt (t : Text) (p : Nat) : Place := ⟨(lineBefore t p).reverse, lineOf t p⟩

theorem drop_eq_cons_iff {c : Char} {rest : Text} :
    t.drop p = c :: rest ↔ t[p]? = some c ∧ t.drop (p + 1) = rest := by
  constructor
  · intro h
    refine ⟨?_, ?_⟩
    · rw [← Nat.add_zero p, ← List.getElem?_drop, h]
      rfl
    · rw [← List.drop_drop, h]
      rfl
  · rintro ⟨h, rfl⟩
    obtain ⟨hp, rfl⟩ := List.getElem?_eq_some_iff.mp h
    exact List.drop_eq_getElem_cons hp

theorem pairAt_of_drop {a b : Char} {rest : Text} (h : t.drop p = a :: b :: rest) :
    PairAt a b t p ∧ t.drop (p + 2) = rest := by
  obtain ⟨ha, h⟩ := drop_eq_cons_iff.mp h
  obtain ⟨hb, h⟩ := drop_eq_cons_iff.mp h
  exact ⟨⟨ha, hb⟩, h⟩

theorem PairAt.drop_eq {a b : Char} (h : PairAt a b t p) : t.drop p = a :: b :: t.drop (p + 2) :=
  drop_eq_cons_iff.mpr ⟨h.1, drop_eq_cons_iff.mpr ⟨h.2, rfl⟩⟩

theorem PairAt.lt_length {a b : Char} (h : PairAt a b t p) : p + 1 < t.length :=
  (List.getElem?_eq_some_iff.mp h.2).1

theorem lineBefore_congr (h : u.take p = v.take p) : lineBefore u p = lineBefore v p := by
  rw [lineBefore, h, lineBefore]

theorem placeAt_congr (h : u.take p = v.take p) : placeAt u p = placeAt v p := by
  rw [placeAt, lineBefore_congr h, lineOf, h]
  rfl

theorem push_placeAt {c : Char} (h : t[p]? = some c) :
    (placeAt t p).push c = placeAt t (p + 1) := by
  have htake : t.take (p + 1) = t.take p ++ [c] := by rw [List.take_add_one, h, Option.toList_some]
  rw [placeAt, placeAt, lineOf, lineOf, lineBefore, lineBefore, htake, List.count_append]
  by_cases hc : c = '\n'
  · subst hc
    have hline : Text.afterLast (· == '\n') (t.take p ++ ['\n']) = [] := by
      simp [Text.afterLast]
    rw [hline]
    rfl
  · have hcount : [c].count '\n' = 0 := List.count_eq_zero_of_not_mem (by simpa using Ne.symm hc)
    rw [Text.afterLast_concat (by simpa using hc), List.reverse_append, hcount]
    simp [Place.push, hc]

theorem inHeader_placeAt : (placeAt t p).inHeader = true ↔ InHeader (lineBefore t p) := by
  rw [Place.inHeader, placeAt, List.reverse_reverse]
  exact inPathHeader_iff

/-! ## Comments -/

/-- Where a comment opens, and where the pair of characters stands that closes it, if one does. -/
structure Comment where
  start : Nat
  close? : Option Nat

namespace Comment

/-- The position behind the comment. One that is never closed goes on to the end of the text. -/
def stop (c : Comment) (t : Text) : Nat := c.close?.elim t.length (· + 2)

def covers (c : Comment) (t : Text) (p : Nat) : Bool := c.start ≤ p && p < c.stop t

theorem covers_iff {c : Comment} : c.covers t p = true ↔ c.start ≤ p ∧ p < c.stop t := by
  simp [covers]

end Comment

/-- The text with a blank for every character of the comments. Line breaks stay. -/
def blanked (cs : List Comment) (t : Text) : Text :=
  t.mapIdx fun p c => if cs.any (·.covers t p) then Normal.blank c else c

/-- A comment opens at the position. The line is read with the comments before it blanked. -/
structure Opens (t : Text) (cs : List Comment) (p : Nat) : Prop where
  pair : PairAt '/' '*' t p
  outside : ∀ c ∈ cs, ¬ (c.start < p ∧ p < c.stop t)
  no_header : ¬ InHeader (lineBefore (blanked cs t) p)

/-- The first pair from a position on that closes a comment stands at `q`. -/
def ClosesAt (t : Text) (p q : Nat) : Prop :=
  p ≤ q ∧ PairAt '*' '/' t q ∧ ∀ r, p ≤ r → r < q → ¬ PairAt '*' '/' t r

theorem closesAt_of_pair (hqp : q ≤ p) (hpair : PairAt '*' '/' t p)
    (hopen : ∀ r, q ≤ r → r < p → ¬ PairAt '*' '/' t r) (r : Nat) :
    some p = some r ↔ ClosesAt t q r := by
  constructor
  · rintro ⟨⟩
    exact ⟨hqp, hpair, hopen⟩
  · rintro ⟨hqr, hr, hfirst⟩
    rcases Nat.lt_trichotomy p r with hlt | rfl | hlt
    · exact absurd hpair (hfirst p hqp hlt)
    · rfl
    · exact absurd hr (hopen r hqr hlt)

/-- The comments of a text, from left to right. -/
structure AreComments (t : Text) (cs : List Comment) : Prop where
  ordered : cs.Pairwise fun a b => a.stop t ≤ b.start
  starts : ∀ p, (∃ c ∈ cs, c.start = p) ↔ Opens t cs p
  closes : ∀ c ∈ cs, ∀ q, c.close? = some q ↔ ClosesAt t (c.start + 2) q

section

variable {cs ds : List Comment}

theorem length_blanked (cs : List Comment) (t : Text) : (blanked cs t).length = t.length :=
  List.length_mapIdx

theorem getElem?_blanked (cs : List Comment) (t : Text) (p : Nat) :
    (blanked cs t)[p]? =
      t[p]?.map fun c => if cs.any (·.covers t p) then Normal.blank c else c :=
  List.getElem?_mapIdx

/-- What no comment covers stays. -/
theorem getElem?_blanked_of_clear (h : ∀ d ∈ cs, ¬ d.covers t p = true) :
    (blanked cs t)[p]? = t[p]? := by
  rw [getElem?_blanked, List.any_eq_false.mpr h]
  simp

/-- A character that is no blank and no line break stands where it stood. -/
theorem getElem?_of_blanked {c : Char} (hs : c ≠ ' ') (hn : c ≠ '\n')
    (h : (blanked cs t)[p]? = some c) :
    t[p]? = some c ∧ ∀ d ∈ cs, ¬ d.covers t p = true := by
  rw [getElem?_blanked] at h
  obtain ⟨a, ha, hc⟩ := Option.map_eq_some_iff.mp h
  split at hc
  · rw [Normal.blank] at hc
    split at hc
    · exact absurd hc.symm hn
    · exact absurd hc.symm hs
  · rename_i hcovers
    rw [List.any_eq_true, not_exists] at hcovers
    rw [ha, hc]
    exact ⟨rfl, fun d hd hin => hcovers d ⟨hd, hin⟩⟩

theorem take_blanked_congr (h : ∀ q < p, cs.any (·.covers t q) = ds.any (·.covers t q)) :
    (blanked cs t).take p = (blanked ds t).take p := by
  apply List.ext_getElem?
  intro q
  rw [List.getElem?_take, List.getElem?_take]
  split
  · rename_i hq
    rw [getElem?_blanked, getElem?_blanked, h q hq]
  · rfl

/-- Which positions are covered depends on the comments that open in front of them. -/
theorem any_covers_congr (h : ∀ c, c.start < p → (c ∈ cs ↔ c ∈ ds)) {q : Nat} (hq : q < p) :
    cs.any (·.covers t q) = ds.any (·.covers t q) := by
  rw [Bool.eq_iff_iff, List.any_eq_true, List.any_eq_true]
  refine exists_congr fun c => ?_
  constructor
  · rintro ⟨hc, hcovers⟩
    exact ⟨(h c ((Comment.covers_iff.mp hcovers).1.trans_lt hq)).mp hc, hcovers⟩
  · rintro ⟨hc, hcovers⟩
    exact ⟨(h c ((Comment.covers_iff.mp hcovers).1.trans_lt hq)).mpr hc, hcovers⟩

theorem mem_iff_mem_concat {c d : Comment} (h : c.start < d.start) : c ∈ cs ↔ c ∈ cs ++ [d] := by
  rw [List.mem_append, List.mem_singleton, iff_self_or]
  rintro rfl
  exact absurd h (lt_irrefl _)

/-- Whether a comment opens depends on the comments that open in front of it. -/
theorem Opens.congr (ho : Opens t cs p) (h : ∀ c, c.start < p → (c ∈ cs ↔ c ∈ ds)) :
    Opens t ds p where
  pair := ho.pair
  outside c hc hin := ho.outside c ((h c hin.1).mpr hc) hin
  no_header := by
    rw [lineBefore_congr (take_blanked_congr fun q hq => (any_covers_congr h hq).symm)]
    exact ho.no_header

theorem opens_congr (h : ∀ c, c.start < p → (c ∈ cs ↔ c ∈ ds)) : Opens t cs p ↔ Opens t ds p :=
  ⟨fun ho => ho.congr h, fun ho => ho.congr fun c hc => (h c hc).symm⟩

/-! ## A text has one list of comments -/

theorem Comment.eq_of_closes {c d : Comment} (hstart : c.start = d.start)
    (hc : ∀ q, c.close? = some q ↔ ClosesAt t (c.start + 2) q)
    (hd : ∀ q, d.close? = some q ↔ ClosesAt t (d.start + 2) q) : c = d := by
  have hclose : c.close? = d.close? := by
    apply Option.ext
    intro q
    rw [hc, hd, hstart]
  cases c
  cases d
  cases hstart
  cases hclose
  rfl

theorem Comment.start_lt_stop {c : Comment} (hpair : PairAt '/' '*' t c.start)
    (hclose : ∀ q, c.close? = some q → c.start + 2 ≤ q) : c.start < c.stop t := by
  unfold stop
  cases hc : c.close? with
  | none => exact Nat.lt_of_succ_lt hpair.lt_length
  | some q =>
    have := hclose q hc
    simp only [Option.elim_some]
    omega

theorem AreComments.start_lt_stop (h : AreComments t cs) {c : Comment} (hc : c ∈ cs) :
    c.start < c.stop t :=
  Comment.start_lt_stop ((h.starts c.start).mp ⟨c, hc, rfl⟩).pair
    fun q hq => ((h.closes c hc q).mp hq).1

/-- By induction on the position where a comment opens: the same comments open in front of it. -/
theorem AreComments.mem_iff (hc : AreComments t cs) (hd : AreComments t ds) (p : Nat) :
    ∀ c : Comment, c.start = p → (c ∈ cs ↔ c ∈ ds) := by
  induction p using Nat.strong_induction_on with
  | _ p ih =>
    have hopens : Opens t cs p ↔ Opens t ds p := opens_congr fun c hlt => ih c.start hlt c rfl
    rw [← hc.starts, ← hd.starts] at hopens
    rintro c rfl
    constructor
    · intro hm
      obtain ⟨d, hdm, hstart⟩ := hopens.mp ⟨c, hm, rfl⟩
      rw [Comment.eq_of_closes hstart.symm (hc.closes c hm) (hd.closes d hdm)]
      exact hdm
    · intro hm
      obtain ⟨d, hdm, hstart⟩ := hopens.mpr ⟨c, hm, rfl⟩
      rw [Comment.eq_of_closes hstart.symm (hd.closes c hm) (hc.closes d hdm)]
      exact hdm

theorem AreComments.unique (hc : AreComments t cs) (hd : AreComments t ds) : cs = ds := by
  have hsorted {es : List Comment} (he : AreComments t es) :
      es.Pairwise fun a b => a.start < b.start :=
    he.ordered.imp_of_mem fun ha _ hab => (he.start_lt_stop ha).trans_le hab
  have hirrefl : Std.Irrefl fun a b : Comment => a.start < b.start := ⟨fun _ => lt_irrefl _⟩
  have hantisymm : Std.Antisymm fun a b : Comment => a.start < b.start :=
    ⟨fun _ _ hab hba => absurd hab hba.asymm⟩
  exact (hsorted hc).eq_of_mem_iff (hsorted hd) fun c => hc.mem_iff hd c.start c rfl

/-! ## Comments up to a position -/

/-- The comments that are found when all in front of a position is read. -/
structure Found (t : Text) (p : Nat) (cs : List Comment) : Prop where
  ordered : cs.Pairwise fun a b => a.stop t ≤ b.start
  starts : ∀ q < p, (∃ c ∈ cs, c.start = q) ↔ Opens t cs q
  closes : ∀ c ∈ cs, ∀ q, c.close? = some q ↔ ClosesAt t (c.start + 2) q
  start_lt : ∀ c ∈ cs, c.start < p
  stop_le : ∀ c ∈ cs, c.stop t ≤ p

namespace Found

theorem nil (t : Text) : Found t 0 [] where
  ordered := .nil
  starts q hq := absurd hq (Nat.not_lt_zero q)
  closes := by simp
  start_lt := by simp
  stop_le := by simp

theorem getElem?_blanked (h : Found t p cs) (hq : p ≤ q) : (blanked cs t)[q]? = t[q]? := by
  refine getElem?_blanked_of_clear fun c hc hcovers => ?_
  have := (Comment.covers_iff.mp hcovers).2
  have := h.stop_le c hc
  omega

/-- Where no comment opens, reading goes on. -/
theorem skip (h : Found t p cs) (hpq : p ≤ q) (hno : ∀ r, p ≤ r → r < q → ¬ Opens t cs r) :
    Found t q cs where
  ordered := h.ordered
  starts r hr := by
    rcases Nat.lt_or_ge r p with hrp | hrp
    · exact h.starts r hrp
    · constructor
      · rintro ⟨c, hc, rfl⟩
        exact absurd (h.start_lt c hc) (Nat.not_lt.mpr hrp)
      · intro ho
        exact absurd ho (hno r hrp hr)
  closes := h.closes
  start_lt c hc := (h.start_lt c hc).trans_le hpq
  stop_le c hc := (h.stop_le c hc).trans hpq

/-- A comment that opens is read as a whole. -/
theorem comment (h : Found t p cs) (ho : Opens t cs p) {close? : Option Nat}
    (hclose : ∀ q, close? = some q ↔ ClosesAt t (p + 2) q) :
    Found t ((⟨p, close?⟩ : Comment).stop t) (cs ++ [⟨p, close?⟩]) := by
  have hlt : p < (⟨p, close?⟩ : Comment).stop t :=
    Comment.start_lt_stop (c := ⟨p, close?⟩) ho.pair fun q hq => ((hclose q).mp hq).1
  constructor
  case ordered =>
    refine List.pairwise_append.mpr ⟨h.ordered, List.pairwise_singleton _ _, fun a ha b hb => ?_⟩
    rw [List.mem_singleton.mp hb]
    exact h.stop_le a ha
  case starts =>
    intro q hq
    have hconcat : (∃ c ∈ cs ++ [⟨p, close?⟩], c.start = q) ↔ (∃ c ∈ cs, c.start = q) ∨ p = q := by
      simp [or_and_right, exists_or]
    rw [hconcat]
    rcases Nat.lt_trichotomy q p with hqp | rfl | hpq
    · rw [or_iff_left hqp.ne', h.starts q hqp]
      exact opens_congr fun c hc => mem_iff_mem_concat (hc.trans hqp)
    · rw [← opens_congr fun c hc => mem_iff_mem_concat hc]
      exact iff_of_true (.inr rfl) ho
    · refine iff_of_false ?_ fun ho' => ?_
      · rintro (⟨c, hc, rfl⟩ | rfl)
        · exact absurd (h.start_lt c hc) hpq.asymm
        · exact absurd hpq (lt_irrefl _)
      · exact ho'.outside _ (List.mem_append_right _ (List.mem_singleton_self _)) ⟨hpq, hq⟩
  case closes => exact List.forall_mem_append.mpr ⟨h.closes, List.forall_mem_singleton.mpr hclose⟩
  case start_lt =>
    exact List.forall_mem_append.mpr
      ⟨fun c hc => (h.start_lt c hc).trans hlt, List.forall_mem_singleton.mpr hlt⟩
  case stop_le =>
    exact List.forall_mem_append.mpr
      ⟨fun c hc => (h.stop_le c hc).trans hlt.le, List.forall_mem_singleton.mpr le_rfl⟩

theorem areComments (h : Found t p cs) (hp : t.length ≤ p) : AreComments t cs where
  ordered := h.ordered
  starts q := by
    rcases Nat.lt_or_ge q p with hqp | hqp
    · exact h.starts q hqp
    · constructor
      · rintro ⟨c, hc, rfl⟩
        exact absurd (h.start_lt c hc) (Nat.not_lt.mpr hqp)
      · intro ho
        have := ho.pair.lt_length
        omega
  closes := h.closes

end Found

/-! ## Stripping -/

/-- What is known when stripping comes to a position: which comments stand in front, the last of
them as one without an end where it is still open, and the line where that one opened. -/
inductive Reached (t : Text) (p : Nat) : Option Nat → List Comment → Prop
  | outside {cs : List Comment} (h : Found t p cs) (hclosed : ∀ c ∈ cs, c.close? ≠ none) :
      Reached t p none cs
  | inside {s : Nat} {cs : List Comment} (h : Found t s cs) (hclosed : ∀ c ∈ cs, c.close? ≠ none)
      (ho : Opens t cs s) (hs : s + 2 ≤ p)
      (hopen : ∀ r, s + 2 ≤ r → r < p → ¬ PairAt '*' '/' t r) :
      Reached t p (some (lineOf t s)) (cs ++ [⟨s, none⟩])

/-- The line on which a comment opened that nothing closes. -/
def IsUnclosed (t : Text) (cs : List Comment) (line? : Option Nat) : Prop :=
  ∀ n, line? = some n ↔ ∃ c, cs.getLast? = some c ∧ c.close? = none ∧ lineOf t c.start = n

/-- The normal form of what is left of a text is its part behind `front` with comments blanked. -/
def Blanks (t front : Text) (n : Normal) : Prop :=
  ∃ cs, AreComments t cs ∧ blanked cs t = front ++ n.text ∧ IsUnclosed t cs n.unclosed

theorem Blanks.prepend {front s : Text} {n : Normal} (h : Blanks t (front ++ s) n) :
    Blanks t front (n.prepend s) := by
  obtain ⟨cs, hcs, htext, hline⟩ := h
  rw [Normal.prepend_eq]
  exact ⟨cs, hcs, by rw [htext, List.append_assoc], hline⟩

/-- From one position to another the text with its comments blanked advances by some characters,
where the comments found so far are `cs` and then `ds`. -/
structure Advances (t : Text) (p : Nat) (cs : List Comment) (q : Nat) (ds : List Comment)
    (s : Text) : Prop where
  take : (blanked ds t).take q = (blanked cs t).take p ++ s
  place : placeAt (blanked ds t) q = s.foldl Place.push (placeAt (blanked cs t) p)

namespace Advances

theorem char {d : Char} (hfront : (blanked cs t).take p = (blanked ds t).take p)
    (hd : (blanked ds t)[p]? = some d) : Advances t p cs (p + 1) ds [d] where
  take := by rw [List.take_add_one, hd, hfront, Option.toList_some]
  place := by
    rw [List.foldl_cons, List.foldl_nil, placeAt_congr hfront, push_placeAt hd]

theorem pair {d e : Char} (hfront : (blanked cs t).take p = (blanked ds t).take p)
    (h : PairAt d e (blanked ds t) p) : Advances t p cs (p + 2) ds [d, e] where
  take := by
    rw [(char rfl h.2).take, (char hfront h.1).take, List.append_assoc]
    rfl
  place := by
    rw [(char rfl h.2).place, (char hfront h.1).place]
    rfl

theorem blanks {s : Text} {n : Normal} (h : Advances t p cs q ds s)
    (hn : Blanks t ((blanked ds t).take q) n) : Blanks t ((blanked cs t).take p) (n.prepend s) := by
  rw [h.take] at hn
  exact hn.prepend

end Advances

/-- From where a comment opens to where it stops, its characters are blanked. -/
theorem getElem?_blanked_last {d : Comment} {c : Char} (hstart : d.start ≤ p) (hstop : p < d.stop t)
    (hc : t[p]? = some c) : (blanked (cs ++ [d]) t)[p]? = some (Normal.blank c) := by
  have hcovers : (cs ++ [d]).any (·.covers t p) = true := by
    rw [List.any_append, List.any_cons, Comment.covers_iff.mpr ⟨hstart, hstop⟩, Bool.true_or,
      Bool.or_true]
  rw [getElem?_blanked, hc, hcovers]
  rfl

/-- In front of the position that is read, an open comment covers what it covers once it is
closed. -/
theorem take_blanked_last {c d : Comment} (hstart : c.start = d.start) (hc : p ≤ c.stop t)
    (hd : p ≤ d.stop t) :
    (blanked (cs ++ [c]) t).take p = (blanked (cs ++ [d]) t).take p := by
  refine take_blanked_congr fun q hq => ?_
  have hcovers : c.covers t q = d.covers t q := by
    rw [Bool.eq_iff_iff, Comment.covers_iff, Comment.covers_iff, hstart]
    omega
  rw [List.any_append, List.any_append, List.any_cons, List.any_cons, hcovers]

theorem count_take_blanked (cs : List Comment) (t : Text) (p : Nat) :
    ((blanked cs t).take p).count '\n' = (t.take p).count '\n' := by
  induction p with
  | zero => rfl
  | succ p ih =>
    rw [List.take_add_one, List.take_add_one, List.count_append, List.count_append, ih,
      getElem?_blanked]
    cases t[p]? with
    | none => rfl
    | some c =>
      rw [Option.map_some, Option.toList_some, Option.toList_some]
      split
      · rw [Normal.count_blank_cons]
      · rfl

theorem lineOf_blanked (cs : List Comment) (t : Text) (p : Nat) :
    lineOf (blanked cs t) p = lineOf t p := by
  rw [lineOf, count_take_blanked, lineOf]

theorem not_closesAt_of_length_le {q : Nat} (hp : t.length ≤ p)
    (hopen : ∀ r, q ≤ r → r < p → ¬ PairAt '*' '/' t r) (r : Nat) : ¬ ClosesAt t q r := by
  rintro ⟨hqr, hpair, -⟩
  have := hpair.lt_length
  exact hopen r hqr (by omega) hpair

theorem isUnclosed_none (h : ∀ c ∈ cs, c.close? ≠ none) : IsUnclosed t cs none := by
  intro n
  constructor
  · intro hn
    cases hn
  · rintro ⟨c, hc, hclose, -⟩
    exact absurd hclose (h c (List.mem_of_getLast? hc))

theorem isUnclosed_concat (cs : List Comment) (s : Nat) :
    IsUnclosed t (cs ++ [⟨s, none⟩]) (some (lineOf t s)) := by
  intro n
  rw [List.getLast?_concat]
  constructor
  · rintro ⟨⟩
    exact ⟨_, rfl, rfl, rfl⟩
  · rintro ⟨c, hc, -, rfl⟩
    cases hc
    rfl

theorem Reached.blanks_end {opened : Option Nat} (h : Reached t p opened cs) (hp : t.length ≤ p) :
    Blanks t ((blanked cs t).take p) ⟨[], opened⟩ := by
  have htake : (blanked cs t).take p = blanked cs t :=
    List.take_of_length_le (by rwa [length_blanked])
  refine ⟨cs, ?_, by rw [htake, List.append_nil], ?_⟩
  · cases h with
    | outside h => exact h.areComments hp
    | inside h _ ho _ hopen =>
      refine (h.comment ho fun q => ?_).areComments (Nat.le_refl _)
      exact iff_of_false (by simp) (not_closesAt_of_length_le hp hopen q)
  · cases h with
    | outside _ hclosed => exact isUnclosed_none hclosed
    | inside => exact isUnclosed_concat _ _

namespace Reached

variable {n : Nat} {c : Char}

/-- The pair that closes the comment is its last two characters. -/
theorem close (h : Reached t p (some n) cs) (hpair : PairAt '*' '/' t p) :
    ∃ ds, Reached t (p + 2) none ds ∧ Advances t p cs (p + 2) ds [' ', ' '] := by
  have hlen := hpair.lt_length
  cases h with
  | @inside s cs h hclosed ho hs hopen =>
    have hfound : Found t (p + 2) (cs ++ [⟨s, some p⟩]) :=
      h.comment ho (closesAt_of_pair hs hpair hopen)
    refine ⟨cs ++ [⟨s, some p⟩], .outside hfound ?_, .pair ?_ ⟨?_, ?_⟩⟩
    · exact List.forall_mem_append.mpr ⟨hclosed, List.forall_mem_singleton.mpr nofun⟩
    · exact take_blanked_last rfl (Nat.le_of_lt (Nat.lt_of_succ_lt hlen)) (Nat.le_add_right p 2)
    · exact getElem?_blanked_last (Nat.le_of_add_right_le hs) (Nat.lt_add_of_pos_right two_pos)
        hpair.1
    · exact getElem?_blanked_last (Nat.le_succ_of_le (Nat.le_of_add_right_le hs))
        (Nat.lt_succ_self _) hpair.2

/-- Any other character of a comment is blanked, and the comment stays open. -/
theorem blank (h : Reached t p (some n) cs) (hc : t[p]? = some c) (hnot : ¬ PairAt '*' '/' t p) :
    Reached t (p + 1) (some n) cs ∧ Advances t p cs (p + 1) cs [Normal.blank c] := by
  cases h with
  | @inside s cs h hclosed ho hs hopen =>
    refine ⟨.inside h hclosed ho (Nat.le_succ_of_le hs) fun r hsr hr => ?_, .char rfl ?_⟩
    · rcases Nat.lt_succ_iff_lt_or_eq.mp hr with hr | rfl
      · exact hopen r hsr hr
      · exact hnot
    · exact getElem?_blanked_last (Nat.le_of_add_right_le hs) (List.getElem?_eq_some_iff.mp hc).1 hc

/-- The pair that opens a comment elsewhere is kept in the header of a path. -/
theorem glob (h : Reached t p none cs) (hpair : PairAt '/' '*' t p)
    (hheader : InHeader (lineBefore (blanked cs t) p)) :
    Reached t (p + 2) none cs ∧ Advances t p cs (p + 2) cs ['/', '*'] := by
  cases h with
  | outside h hclosed =>
    refine ⟨.outside (h.skip (Nat.le_add_right p 2) fun r hpr hr ho => ?_) hclosed,
      .pair rfl ⟨?_, ?_⟩⟩
    · rcases Nat.lt_succ_iff_lt_or_eq.mp hr with hr | rfl
      · obtain rfl : r = p := Nat.le_antisymm (Nat.le_of_lt_succ hr) hpr
        exact ho.no_header hheader
      · cases ho.pair.1.symm.trans hpair.2
    · exact (h.getElem?_blanked (Nat.le_refl p)).trans hpair.1
    · exact (h.getElem?_blanked (Nat.le_succ p)).trans hpair.2

/-- Outside such a header it opens one, which begins with a blank for each of the two. -/
theorem opens (h : Reached t p none cs) (hpair : PairAt '/' '*' t p)
    (hheader : ¬ InHeader (lineBefore (blanked cs t) p)) :
    ∃ ds, Reached t (p + 2) (some (lineOf t p)) ds ∧ Advances t p cs (p + 2) ds [' ', ' '] := by
  have hlen := hpair.lt_length
  cases h with
  | outside h hclosed =>
    have ho : Opens t cs p :=
      ⟨hpair, fun c hc hin => Nat.not_lt.mpr (h.stop_le c hc) hin.2, hheader⟩
    refine ⟨cs ++ [⟨p, none⟩], .inside h hclosed ho (Nat.le_refl _) fun r hpr hr => ?_,
      .pair ?_ ⟨?_, ?_⟩⟩
    · exact absurd hr (Nat.not_lt.mpr hpr)
    · exact take_blanked_congr fun q hq => any_covers_congr (fun c => mem_iff_mem_concat) hq
    · exact getElem?_blanked_last (Nat.le_refl p) (Nat.lt_of_succ_lt hlen) hpair.1
    · exact getElem?_blanked_last (Nat.le_succ p) hlen hpair.2

/-- Any other character outside comments is kept. -/
theorem keep (h : Reached t p none cs) (hc : t[p]? = some c) (hnot : ¬ PairAt '/' '*' t p) :
    Reached t (p + 1) none cs ∧ Advances t p cs (p + 1) cs [c] := by
  cases h with
  | outside h hclosed =>
    refine ⟨.outside (h.skip (Nat.le_succ p) fun r hpr hr ho => ?_) hclosed, .char rfl ?_⟩
    · obtain rfl : r = p := Nat.le_antisymm (Nat.le_of_lt_succ hr) hpr
      exact hnot ho.pair
    · exact (h.getElem?_blanked (Nat.le_refl p)).trans hc

end Reached

/-- Stripping blanks the comments, by induction on its run: each step takes what is reached to
where the next one begins. -/
theorem blanks_strip {opened : Option Nat} (h : Reached t p opened cs) :
    Blanks t ((blanked cs t).take p)
      (Normal.strip (placeAt (blanked cs t) p) opened (t.drop p)) := by
  generalize hrest : t.drop p = rest
  generalize hplace : placeAt (blanked cs t) p = place
  fun_induction Normal.strip place opened rest generalizing p cs with
  | case1 place opened => exact h.blanks_end (List.drop_eq_nil_iff.mp hrest)
  | case2 place n rest ih =>
    obtain ⟨hpair, hdrop⟩ := pairAt_of_drop hrest
    obtain ⟨ds, hds, hstep⟩ := h.close hpair
    exact hstep.blanks (ih hds hdrop (hplace ▸ hstep.place))
  | case3 place n c rest hpair ih =>
    obtain ⟨hc, hdrop⟩ := drop_eq_cons_iff.mp hrest
    have hnot : ¬ PairAt '*' '/' t p := by
      intro hclose
      obtain ⟨rfl, rfl⟩ := List.cons.inj (hrest.symm.trans hclose.drop_eq)
      exact hpair _ rfl rfl
    obtain ⟨hcs, hstep⟩ := h.blank hc hnot
    exact hstep.blanks (ih hcs hdrop (hplace ▸ hstep.place))
  | case4 place rest hheader ih =>
    obtain ⟨hpair, hdrop⟩ := pairAt_of_drop hrest
    rw [← hplace, inHeader_placeAt] at hheader
    obtain ⟨hcs, hstep⟩ := h.glob hpair hheader
    exact hstep.blanks (ih hcs hdrop (hplace ▸ hstep.place))
  | case5 place rest hheader ih =>
    obtain ⟨hpair, hdrop⟩ := pairAt_of_drop hrest
    have hnumber : lineOf t p = place.number := by
      rw [← hplace, ← lineOf_blanked cs t p]
      rfl
    rw [← hplace, inHeader_placeAt] at hheader
    obtain ⟨ds, hds, hstep⟩ := h.opens hpair hheader
    exact hstep.blanks (ih (hnumber ▸ hds) hdrop (hplace ▸ hstep.place))
  | case6 place c rest hpair ih =>
    obtain ⟨hc, hdrop⟩ := drop_eq_cons_iff.mp hrest
    have hnot : ¬ PairAt '/' '*' t p := by
      intro hopens
      obtain ⟨rfl, rfl⟩ := List.cons.inj (hrest.symm.trans hopens.drop_eq)
      exact hpair _ rfl rfl
    obtain ⟨hcs, hstep⟩ := h.keep hc hnot
    exact hstep.blanks (ih hcs hdrop (hplace ▸ hstep.place))

end

/-! ## Normal forms -/

/-- The normal form of a text is the text with its comments blanked. -/
theorem normalize_blanks (raw : Text) :
    ∃ cs, AreComments (unified raw) cs ∧ (normalize raw).text = blanked cs (unified raw) ∧
      IsUnclosed (unified raw) cs (normalize raw).unclosed := by
  have hreached : Reached (unified raw) 0 none [] := .outside (Found.nil _) (by simp)
  obtain ⟨cs, hcs, htext, hline⟩ := blanks_strip hreached
  exact ⟨cs, hcs, htext.symm, hline⟩

/-- The normal form of a text keeps every character but those of the comments, has a blank for each
of these that is no line break, and names the line where the last of them opens if nothing closes
it. -/
theorem normalize_blanks_comments (raw : Text) :
    ∃ cs, (∀ ds, AreComments (unified raw) ds ↔ ds = cs) ∧
      (normalize raw).text.length = (unified raw).length ∧
      (∀ p c, (unified raw)[p]? = some c →
        (normalize raw).text[p]? =
          some (if cs.any (·.covers (unified raw) p) ∧ c ≠ '\n' then ' ' else c)) ∧
      ∀ n, (normalize raw).unclosed = some n ↔
        ∃ c, cs.getLast? = some c ∧ c.close? = none ∧ lineOf (unified raw) c.start = n := by
  obtain ⟨cs, hcs, htext, hline⟩ := normalize_blanks raw
  refine ⟨cs, fun ds => ⟨fun hds => hds.unique hcs, ?_⟩, ?_, fun p c hc => ?_, hline⟩
  · rintro rfl
    exact hcs
  · rw [htext, length_blanked]
  · rw [htext, getElem?_blanked, hc, Option.map_some, Normal.blank]
    by_cases hcovers : cs.any (·.covers (unified raw) p) = true
    · by_cases hbreak : c = '\n'
      · simp [hbreak]
      · simp [hcovers, hbreak]
    · simp [hcovers]

end PageRules.RuleText
