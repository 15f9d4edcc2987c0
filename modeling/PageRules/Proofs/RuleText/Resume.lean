import Mathlib
import PageRules.Proofs.RuleText.Place

/-!
# Scans that go on

More text behind a closing brace, or on later lines, changes nothing of what a scan finds in a text
that closes its braces, but for the option groups: those of a block at the end of the text go on
into what follows (`scanFrom_append_text`).
-/

namespace PageRules.RuleText

variable {k : Keyword} {s t : Text}

/-! ## Option groups -/

/-- A group that is closed is not changed by what stands further on. -/
theorem group?_append_of_some {group after : Text} (h : group? t = some (group, after)) (s : Text) :
    group? (t ++ s) = some (group, after ++ s) := by
  induction t generalizing group with
  | nil => cases h
  | cons c t ih =>
    rw [List.cons_append]
    by_cases hs : Text.isSpace c = true
    · rw [group?_space hs] at h ⊢
      obtain ⟨⟨g, a⟩, hg, he⟩ := Option.map_eq_some_iff.mp h
      cases he
      rw [ih hg]
      rfl
    by_cases hc : c = '['
    · subst hc
      rw [group?_open] at h ⊢
      obtain ⟨⟨inner, a⟩, hg, he⟩ := Option.map_eq_some_iff.mp h
      cases he
      rw [Text.splitOnce_append_of_some hg]
      rfl
    · rw [group?_other (by simpa using hs) hc] at h
      cases h

theorem group?_optionRun (t : Text) : group? (optionRun t).2 = none := by
  fun_induction optionRun t with
  | case1 t group after hg more rest hr ih => rwa [hr] at ih
  | case2 t hg => exact hg

/-- Behind a block no option group begins. -/
theorem Block.StandsIn.exists_behind {pos : Nat} {b : Block} (h : b.StandsIn k pos t) :
    ∃ u after, t = u ++ after ∧ b.stop = pos + u.length ∧ group? after = none := by
  obtain ⟨front, word, header, body, trailer, after, hb, rfl, rfl⟩ := h
  refine ⟨front ++ pieces word header body trailer, after, (List.append_assoc ..).symm, ?_, ?_⟩
  · rw [stop_opened, List.length_append, Nat.add_assoc]
  · have hrun := group?_optionRun (trailer ++ after)
    rwa [hb.groups] at hrun

/-- More text adds groups where the groups of a text end with it. -/
theorem optionRun_append_text (t s : Text) :
    optionRun (t ++ s) = ((optionRun t).1 ++ (optionRun ((optionRun t).2 ++ s)).1,
      (optionRun ((optionRun t).2 ++ s)).2) := by
  fun_induction optionRun t with
  | case1 t group after hg more rest hr ih =>
    rw [optionRun_of_some (group?_append_of_some hg s), ih, hr]
    simp only [List.append_assoc]
  | case2 t hg => rfl

/-! ## Ends of texts -/

/-- The text ends in a closing brace, where it does not end at once. -/
def EndsClosed (t : Text) : Prop := ∀ c ∈ t.getLast?, c = '\x7d'

theorem EndsClosed.suffix {u : Text} (h : EndsClosed t) (hu : u <:+ t) : EndsClosed u := by
  obtain ⟨w, rfl⟩ := hu
  intro c hc
  refine h c ?_
  rw [List.getLast?_append, Option.mem_def.mp hc]
  rfl

theorem EndsClosed.exists_eq (h : EndsClosed t) (hne : t ≠ []) : ∃ u, t = u ++ ['\x7d'] := by
  have hlast := h _ (List.getLast_mem_getLast? hne)
  exact ⟨t.dropLast, by rw [← hlast, List.dropLast_concat_getLast hne]⟩

/-- No keyword and no header goes on from `t` into `s`: a closing brace or a line break stands
between what they hold. -/
inductive Parted (t s : Text) : Prop
  | brace (h : EndsClosed t)
  | line (h : s.head? = some '\n')

theorem Parted.suffix {u : Text} (h : Parted t s) (hu : u <:+ t) : Parted u s := by
  cases h with
  | brace h => exact .brace (h.suffix hu)
  | line h => exact .line h

/-- A text without a closing brace has a line break behind it, where it is not empty. -/
theorem Parted.head?_of_not_mem (h : Parted t s) (hne : t ≠ []) (ht : '\x7d' ∉ t) :
    s.head? = some '\n' := by
  cases h with
  | line h => exact h
  | brace h =>
    obtain ⟨u, rfl⟩ := h.exists_eq hne
    exact absurd (List.mem_append_right u List.mem_cons_self) ht

theorem header?_append_close (t s : Text) :
    header? (t ++ '\x7d' :: s) =
      (header? t).map fun (header, after) => (header, after ++ '\x7d' :: s) := by
  induction t with
  | nil => rfl
  | cons c t ih =>
    unfold header?
    rw [List.cons_append]
    dsimp only
    rw [ih, Option.map_map]
    split
    · rfl
    · split
      · rfl
      · rw [Option.map_map]
        rfl

/-- No header goes on into what stands behind the text. -/
theorem header?_append_of_parted (h : Parted t s) (hne : t ≠ [] ∨ s.head? = some '\n') :
    header? (t ++ s) = (header? t).map fun (header, after) => (header, after ++ s) := by
  cases h with
  | line h =>
    obtain ⟨s, rfl⟩ := List.head?_eq_some_iff.mp h
    exact header?_append_line t s
  | brace h =>
    by_cases ht : t = []
    · obtain ⟨s, rfl⟩ := List.head?_eq_some_iff.mp (hne.resolve_left (by simpa using ht))
      exact header?_append_line t s
    · obtain ⟨u, rfl⟩ := h.exists_eq ht
      rw [List.append_assoc, List.singleton_append, header?_append_close, header?_append_close,
        Option.map_map]
      congr 1
      funext r
      simp

/-- No keyword goes on into what stands behind the text. -/
theorem after?_append_of_parted (h : Parted t s) (hne : t ≠ []) :
    k.after? (t ++ s) = (k.after? t).map (· ++ s) := by
  cases h with
  | line h =>
    obtain ⟨s, rfl⟩ := List.head?_eq_some_iff.mp h
    exact Keyword.after?_append_barrier (Keyword.barrier_of_mem (by decide)) t s
  | brace h =>
    obtain ⟨u, rfl⟩ := h.exists_eq hne
    rw [List.append_assoc, List.singleton_append, Keyword.after?_append_barrier k.barrier_close,
      Keyword.after?_append_barrier k.barrier_close, Option.map_map]
    congr 1
    funext r
    simp

namespace Opening

/-- The same where more text follows, which the option groups may go on into. -/
def resume (s : Text) : Opening → Opening
  | .none => .none
  | .noBrace size after => .noBrace size (after ++ s)
  | .unmatchedBrace size after => .unmatchedBrace size (after ++ s)
  | .block lead header body trailer after =>
    .block lead header body (trailer ++ (optionRun (after ++ s)).1) (optionRun (after ++ s)).2

/-- What a keyword opens in a text that closes its braces is opened in the text, but for more
groups. -/
theorem read_append_of_parted {d : Nat} (hd : braceDepth? d t = some 0) (hp : Parted t s)
    (hne : t ≠ []) : read k (t ++ s) = (read k t).resume s := by
  unfold read
  rw [after?_append_of_parted hp hne]
  cases hk : k.after? t with
  | none => rfl
  | some afterColon =>
    obtain ⟨word, hw, rfl⟩ := Keyword.after?_eq_some hk
    have hcolon : afterColon ≠ [] ∨ s.head? = some '\n' := by
      by_cases hafter : afterColon = []
      · rw [hafter, List.append_nil] at hp hne
        exact .inr (hp.head?_of_not_mem hne hw.no_brace.2)
      · exact .inl hafter
    have hlead : (word ++ afterColon ++ s).length - (afterColon ++ s).length =
        (word ++ afterColon).length - afterColon.length := by
      simp only [List.length_append]
      omega
    rw [braceDepth?_append_of_not_mem hw.no_brace.1 hw.no_brace.2] at hd
    rw [Option.map_some]
    dsimp only
    rw [header?_append_of_parted (hp.suffix ⟨word, rfl⟩) hcolon, hlead]
    cases hh : header? afterColon with
    | none => rfl
    | some r =>
      obtain ⟨header, afterBrace⟩ := r
      obtain ⟨rfl, hheader⟩ := header?_eq_some hh
      rw [braceDepth?_append_of_not_mem hheader.no_open hheader.no_close, braceDepth?_open] at hd
      obtain ⟨body, behind, hb, -⟩ := body?_of_braceDepth (e := 0) hd
      rw [Option.map_some]
      dsimp only
      rw [body?_append_of_some hb, hb]
      dsimp only
      rw [optionRun_append_text]
      rfl

theorem readIf_append_of_parted {allowed : Bool} {o : Opening} (hr : readIf allowed k t = o)
    {d : Nat} (hd : braceDepth? d t = some 0) (hp : Parted t s) (hne : t ≠ []) :
    readIf allowed k (t ++ s) = o.resume s := by
  subst hr
  cases allowed with
  | true => exact read_append_of_parted hd hp hne
  | false => rfl

end Opening

/-! ## Scans -/

theorem add_length_cons (pos : Nat) (c : Char) (t : Text) :
    pos + (c :: t).length = pos + 1 + t.length := by
  rw [List.length_cons, Nat.add_right_comm, Nat.add_assoc]

theorem add_length_append (pos : Nat) (u v : Text) :
    pos + (u ++ v).length = pos + u.length + v.length := by
  rw [List.length_append, Nat.add_assoc]

/-- What two scans found, one after the other. -/
instance : Append Scan := ⟨fun s t => ⟨s.blocks ++ t.blocks, s.malformed ++ t.malformed⟩⟩

namespace Scan

@[simp] theorem blocks_append (s t : Scan) : (s ++ t).blocks = s.blocks ++ t.blocks := rfl

@[simp] theorem malformed_append (s t : Scan) : (s ++ t).malformed = s.malformed ++ t.malformed :=
  rfl

theorem consBlock_append (b : Block) (s t : Scan) : s.consBlock b ++ t = (s ++ t).consBlock b := rfl

theorem consMalformed_append (m : Malformed) (s t : Scan) :
    s.consMalformed m ++ t = (s ++ t).consMalformed m := rfl

theorem append_assoc (s t u : Scan) : s ++ t ++ u = s ++ (t ++ u) := by
  change Scan.mk _ _ = Scan.mk _ _
  simp only [blocks_append, malformed_append, List.append_assoc]

end Scan

/-- The block with more text in its option groups. -/
def Block.addGroups (b : Block) (run : Text) : Block :=
  { b with trailer := ⟨b.trailer.start, b.trailer.chars ++ run⟩ }

/-- A scan of what follows a text, where the last block goes up to its end or none does. -/
def resumed (k : Keyword) (pos : Nat) (s : Text) : Option Block → Scan
  | none => scanFrom k pos 0 true s
  | some b =>
    (scanFrom k (pos + (optionRun s).1.length) 0 (b.trailer.chars ++ (optionRun s).1).isEmpty
      (optionRun s).2).consBlock (b.addGroups (optionRun s).1)

/-- How a scan of a text goes on in `s` behind it: the blocks that it found are kept, the last with
more groups where it ends the text. -/
structure GoesOn (k : Keyword) (s : Text) (stop : Nat) (found goneOn early : Scan)
    (last? : Option Block) : Prop where
  found_eq : found = early ++ ⟨last?.toList, []⟩
  early_stop : ∀ x ∈ early.blocks, x.stop < stop
  last_stop : ∀ x ∈ last?, x.stop = stop
  goneOn_eq : goneOn = early ++ resumed k stop s last?

namespace GoesOn

variable {stop : Nat} {found goneOn early : Scan} {last? : Option Block}

theorem consBlock (h : GoesOn k s stop found goneOn early last?) {b : Block} (hb : b.stop < stop) :
    GoesOn k s stop (found.consBlock b) (goneOn.consBlock b) (early.consBlock b) last? where
  found_eq := by rw [h.found_eq, Scan.consBlock_append]
  early_stop := List.forall_mem_cons.mpr ⟨hb, h.early_stop⟩
  last_stop := h.last_stop
  goneOn_eq := by rw [h.goneOn_eq, Scan.consBlock_append]

theorem consMalformed (h : GoesOn k s stop found goneOn early last?) (m : Malformed) :
    GoesOn k s stop (found.consMalformed m) (goneOn.consMalformed m) (early.consMalformed m)
      last? where
  found_eq := by rw [h.found_eq, Scan.consMalformed_append]
  early_stop := h.early_stop
  last_stop := h.last_stop
  goneOn_eq := by rw [h.goneOn_eq, Scan.consMalformed_append]

/-- A block at the end of a text goes on with the groups behind it. -/
theorem lastBlock (pos : Nat) (word header body trailer : Text) :
    GoesOn k s (pos + (pieces word header body trailer).length)
      (Scan.consBlock (.opened pos word.length header body trailer) {})
      ((scanFrom k (Block.opened pos word.length header body (trailer ++ (optionRun s).1)).stop 0
        (trailer ++ (optionRun s).1).isEmpty (optionRun s).2).consBlock
          (.opened pos word.length header body (trailer ++ (optionRun s).1)))
      {} (some (.opened pos word.length header body trailer)) where
  found_eq := rfl
  early_stop := by simp
  last_stop := by
    rintro x ⟨⟩
    exact Block.stop_opened ..
  goneOn_eq := by
    have hpieces : pieces word header body (trailer ++ (optionRun s).1) =
        pieces word header body trailer ++ (optionRun s).1 := by simp [pieces]
    rw [Block.stop_opened, hpieces, add_length_append]
    rfl

end GoesOn

/-- No option group of the block goes on into `s` behind the text, but those at the end of it. -/
def Block.EndsBefore (pos : Nat) (t s : Text) (b : Block) : Prop :=
  b.stop = pos + t.length ∨ group? (t.drop (b.stop - pos) ++ s) = none

theorem Block.EndsBefore.group?_eq_none {pos : Nat} {u after : Text} {b : Block}
    (h : b.EndsBefore pos (u ++ after) s) (hstop : b.stop = pos + u.length) (hne : after ≠ []) :
    group? (after ++ s) = none := by
  rcases h with hend | hgroup
  · rw [hstop, List.length_append] at hend
    exact absurd (List.eq_nil_of_length_eq_zero (by omega)) hne
  · rwa [hstop, Nat.add_sub_cancel_left, List.drop_left] at hgroup

theorem endsBefore_of_append {pos depth : Nat} {b : Bool} {u v : Text}
    (h : ∀ x ∈ (scanFrom k (pos + u.length) depth b v).blocks, x.EndsBefore pos (u ++ v) s) :
    ∀ x ∈ (scanFrom k (pos + u.length) depth b v).blocks, x.EndsBefore (pos + u.length) v s := by
  intro x hx
  have hwithin := ((scans_scanFrom ..).standsIn hx).within
  have hstop : pos + u.length ≤ x.stop := by
    have := hwithin.start
    have := hwithin.body
    have := hwithin.trailer
    have : x.body.start ≤ x.body.stop := Nat.le_add_right ..
    omega
  refine (h x hx).imp (fun he => ?_) fun hg => ?_
  · rw [he, List.length_append, Nat.add_assoc]
  · rw [List.drop_append, List.drop_eq_nil_of_le (by omega), List.nil_append] at hg
    rwa [Nat.sub_add_eq]

/-- At the end of the text a scan begins in `s` as behind a line break. -/
theorem GoesOn.atEnd {pos : Nat} {b : Bool} (hb : b = true ∨ s.head? = some '\n') :
    GoesOn k s pos {} (scanFrom k pos 0 b s) {} none where
  found_eq := rfl
  early_stop := by simp
  last_stop := by simp
  goneOn_eq := by
    rcases hb with rfl | hs
    · rfl
    · obtain ⟨s, rfl⟩ := List.head?_eq_some_iff.mp hs
      exact (scanFrom_newline ..).trans (scanFrom_newline ..).symm

/-- A scan goes on behind a block as it does behind any other text, but where the block ends the
text: its groups go on then. -/
theorem GoesOn.exists_consBlock {pos : Nat} {word header body trailer after : Text}
    (hopen : ∀ x ∈ ((scanFrom k (pos + (pieces word header body trailer).length) 0
        trailer.isEmpty after).consBlock (.opened pos word.length header body trailer)).blocks,
      x.EndsBefore pos (pieces word header body trailer ++ after) s)
    (hafter : after ≠ [] →
      (∀ x ∈ (scanFrom k (pos + (pieces word header body trailer).length) 0
          trailer.isEmpty after).blocks,
        x.EndsBefore (pos + (pieces word header body trailer).length) after s) →
      ∃ early last?, GoesOn k s (pos + (pieces word header body trailer).length + after.length)
        (scanFrom k (pos + (pieces word header body trailer).length) 0 trailer.isEmpty after)
        (scanFrom k (pos + (pieces word header body trailer).length) 0 trailer.isEmpty (after ++ s))
        early last?) :
    ∃ early last?, GoesOn k s (pos + (pieces word header body trailer ++ after).length)
      ((scanFrom k (pos + (pieces word header body trailer).length) 0
        trailer.isEmpty after).consBlock (.opened pos word.length header body trailer))
      ((scanFrom k
          (Block.opened pos word.length header body (trailer ++ (optionRun (after ++ s)).1)).stop 0
          (trailer ++ (optionRun (after ++ s)).1).isEmpty (optionRun (after ++ s)).2).consBlock
        (.opened pos word.length header body (trailer ++ (optionRun (after ++ s)).1)))
      early last? := by
  have hstop := Block.stop_opened pos word header body trailer
  by_cases hempty : after = []
  · subst hempty
    rw [scanFrom_nil, List.append_nil, List.nil_append]
    exact ⟨_, _, .lastBlock pos word header body trailer⟩
  · have hnone := (hopen _ List.mem_cons_self).group?_eq_none hstop hempty
    rw [optionRun_of_none hnone, List.append_nil, hstop, add_length_append]
    obtain ⟨early, last?, hgo⟩ := hafter hempty
      (endsBefore_of_append fun x hx => hopen x (List.mem_cons_of_mem _ hx))
    refine ⟨_, _, hgo.consBlock ?_⟩
    rw [hstop]
    exact Nat.lt_add_of_pos_right (List.length_pos_iff.mpr hempty)

/-- A scan of a text with `s` behind it finds the blocks of the text, where no option group of one
goes on into `s` but those of a block that ends the text. -/
theorem scanFrom_append_text {pos depth d : Nat} {b : Bool} (hd : braceDepth? d t = some 0)
    (hle : depth ≤ d) (hp : Parted t s) (hb : t = [] → b = true ∨ s.head? = some '\n')
    (hopen : ∀ x ∈ (scanFrom k pos depth b t).blocks, x.EndsBefore pos t s) :
    ∃ early last?, GoesOn k s (pos + t.length) (scanFrom k pos depth b t)
      (scanFrom k pos depth b (t ++ s)) early last? := by
  -- As where a line follows, `d` is the depth of the braces so far, and the scan may count less.
  fun_induction scanFrom k pos depth b t generalizing d with
  | case1 pos depth b =>
    cases hd
    cases Nat.le_zero.mp hle
    exact ⟨_, _, .atEnd (hb rfl)⟩
  | case2 pos depth b c rest ho ih =>
    cases eq_of_beq ho
    rw [List.cons_append, scanFrom_open, add_length_cons]
    exact ih hd (Nat.succ_le_succ hle) (hp.suffix ⟨[_], rfl⟩) (fun _ => .inl rfl)
      (endsBefore_of_append (u := [_]) hopen)
  | case3 pos depth b c rest _ hcl ih =>
    cases eq_of_beq hcl
    cases d with
    | zero => cases hd
    | succ d =>
      rw [List.cons_append, scanFrom_close, add_length_cons]
      exact ih hd (by omega) (hp.suffix ⟨[_], rfl⟩) (fun _ => .inl rfl)
        (endsBefore_of_append (u := [_]) hopen)
  | case4 pos depth b c rest ho hcl hr ih =>
    have hne : rest = [] → boundsKeyword c = true ∨ s.head? = some '\n' := by
      rintro rfl
      have hclose : '\x7d' ∉ [c] := fun hm => hcl (beq_iff_eq.mpr (List.mem_singleton.mp hm).symm)
      exact .inr (hp.head?_of_not_mem (List.cons_ne_nil c []) hclose)
    have hread := Opening.readIf_append_of_parted hr hd hp (List.cons_ne_nil c rest)
    rw [braceDepth?_cons (by simpa using ho) (by simpa using hcl)] at hd
    rw [List.cons_append] at hread ⊢
    rw [scanFrom_step (by simpa using ho) (by simpa using hcl), hread, Opening.resume, Opening.goOn,
      add_length_cons]
    exact ih hd hle (hp.suffix ⟨[_], rfl⟩) hne (endsBefore_of_append (u := [_]) hopen)
  | case5 pos depth b c rest ho hcl size after hr _ ih =>
    obtain ⟨word, hw, ht, rfl, -⟩ := Opening.fits_readIf hr
    have hread := Opening.readIf_append_of_parted hr hd hp (List.cons_ne_nil c rest)
    have hne : after = [] → false = true ∨ s.head? = some '\n' := by
      rintro rfl
      rw [List.append_nil] at ht
      exact .inr (hp.head?_of_not_mem (List.cons_ne_nil c rest) (ht ▸ hw.no_brace.2))
    rw [List.cons_append] at hread ⊢
    rw [scanFrom_step (by simpa using ho) (by simpa using hcl), hread, Opening.resume, Opening.goOn]
    rw [ht] at hd hp hopen ⊢
    rw [braceDepth?_append_of_not_mem hw.no_brace.1 hw.no_brace.2] at hd
    rw [add_length_append]
    obtain ⟨early, last?, hgo⟩ := ih hd (Nat.zero_le d) (hp.suffix ⟨word, rfl⟩) hne
      (endsBefore_of_append hopen)
    exact ⟨_, _, hgo.consMalformed _⟩
  | case6 pos depth b c rest ho hcl size after hr _ ih =>
    -- a brace that is never closed would keep the text from depth zero
    obtain ⟨word, header, hw, hh, ht, -, hnone⟩ := Opening.fits_readIf hr
    rw [ht] at hd
    exact absurd hnone (body?_ne_none_of_braceDepth hw hh (by simpa using hd))
  | case7 pos depth b c rest ho hcl lead header body trailer after hr _ bodyStart trailerStart =>
    rename_i ih
    obtain ⟨word, -, ht, rfl⟩ := Opening.fits_readIf hr
    have hread := Opening.readIf_append_of_parted hr hd hp (List.cons_ne_nil c rest)
    have hstop : trailerStart + trailer.length = pos + (pieces word header body trailer).length :=
      Block.stop_opened pos word header body trailer
    have hopened : (⟨pos, ⟨pos + word.length, header⟩, ⟨bodyStart, body⟩,
        ⟨trailerStart, trailer⟩⟩ : Block) = .opened pos word.length header body trailer := rfl
    rw [List.cons_append] at hread ⊢
    rw [scanFrom_step (by simpa using ho) (by simpa using hcl), hread, Opening.resume, Opening.goOn]
    rw [ht] at hd hp hopen ⊢
    obtain ⟨d', -, hd'⟩ := braceDepth?_append_eq_some_iff.mp hd
    rw [hstop] at hopen ih ⊢
    rw [hopened] at hopen ⊢
    exact GoesOn.exists_consBlock hopen fun hafter hbefore =>
      ih hd' (Nat.zero_le d') (hp.suffix ⟨_, rfl⟩) (fun h => absurd h hafter) hbefore

/-- A scan of a text that comes down to depth zero goes on from the line feed as it began. -/
theorem scanFrom_append_line {pos depth d : Nat} {b : Bool} (hd : braceDepth? d t = some 0)
    (hle : depth ≤ d) (hg : GroupsEnd t ('\n' :: s)) :
    scanFrom k pos depth b (t ++ '\n' :: s) =
      scanFrom k pos depth b t ++ scanFrom k (pos + t.length + 1) 0 true s := by
  have hbefore : ∀ x ∈ (scanFrom k pos depth b t).blocks, x.EndsBefore pos t ('\n' :: s) := by
    intro x hx
    obtain ⟨u, after, rfl, hstop, hnone⟩ := ((scans_scanFrom ..).standsIn hx).exists_behind
    right
    rw [hstop, Nat.add_sub_cancel_left, List.drop_left, hg after (List.suffix_append ..), hnone]
    rfl
  obtain ⟨early, last?, hgo⟩ := scanFrom_append_text hd hle (.line rfl) (fun _ => .inr rfl) hbefore
  have hrun : optionRun ('\n' :: s) = ([], '\n' :: s) := optionRun_of_none (hg [] List.nil_suffix)
  rw [hgo.goneOn_eq, hgo.found_eq, Scan.append_assoc]
  congr 1
  cases last? with
  | none => exact scanFrom_newline ..
  | some last =>
    rw [resumed, hrun, List.length_nil, Nat.add_zero, scanFrom_newline, Block.addGroups,
      List.append_nil]
    rfl

end PageRules.RuleText
