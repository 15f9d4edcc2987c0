import Mathlib
import PageRules.Proofs.RuleText.Noted
import PageRules.Proofs.RuleText.Opening
import PageRules.RuleText.Compile

/-!
# Places of blocks, lines and notes

A scan takes a text apart piece by piece (`Scans`). The blocks that it finds stand in the text as
their pieces say (`Block.StandsIn`), and what is noted about a fragment stands inside the fragment
(`scopes_within`).
-/

namespace PageRules.RuleText

variable {k : Keyword} {t : Text}

/-! ## Runs of a scan -/

/-- How a scan goes through a text. -/
inductive Scans (k : Keyword) : Nat → Nat → Bool → Text → Scan → Prop
  | nil {pos depth bounded} : Scans k pos depth bounded [] {}
  | openBrace {pos depth bounded t scan} (h : Scans k (pos + 1) (depth + 1) true t scan) :
      Scans k pos depth bounded ('\x7b' :: t) scan
  | closeBrace {pos depth bounded t scan} (h : Scans k (pos + 1) (depth - 1) true t scan) :
      Scans k pos depth bounded ('\x7d' :: t) scan
  | char {pos depth bounded c t scan} (ho : c ≠ '\x7b') (hc : c ≠ '\x7d')
      (hk : depth = 0 → bounded = true → k.after? (c :: t) = none)
      (h : Scans k (pos + 1) depth (boundsKeyword c) t scan) :
      Scans k pos depth bounded (c :: t) scan
  | noBrace {pos word after scan} (hw : k.IsWord word) (hh : header? after = none)
      (h : Scans k (pos + word.length) 0 false after scan) :
      Scans k pos 0 true (word ++ after) (scan.consMalformed ⟨pos, .noBrace⟩)
  | unmatchedBrace {pos word header after scan} (hw : k.IsWord word) (hh : IsHeader header)
      (hb : body? 0 after = none)
      (h : Scans k (pos + (word ++ header ++ ['\x7b']).length) 0 true after scan) :
      Scans k pos 0 true (word ++ header ++ ['\x7b'] ++ after)
        (scan.consMalformed ⟨pos, .unmatchedBrace⟩)
  | block {pos word header body trailer after scan} (hb : IsBlock k word header body trailer after)
      (h : Scans k (pos + (pieces word header body trailer).length) 0 trailer.isEmpty after scan) :
      Scans k pos 0 true (pieces word header body trailer ++ after)
        (scan.consBlock (.opened pos word.length header body trailer))

/-- Only where a keyword may begin is one read. -/
theorem eq_of_readIf_ne_none {allowed : Bool} {o : Opening}
    (h : Opening.readIf allowed k t = o) (ho : o ≠ .none) : allowed = true := by
  cases allowed with
  | true => rfl
  | false => exact absurd h.symm ho

theorem isSome_after?_of_readIf {allowed : Bool} (h : Opening.readIf allowed k t ≠ .none) :
    (k.after? t).isSome := by
  cases hk : k.after? t with
  | some header => rfl
  | none => exact absurd (readIf_eq_none fun _ => hk) h

/-- A scan goes through its text in one of these ways at every place. -/
theorem scans_scanFrom (k : Keyword) (pos depth : Nat) (bounded : Bool) (t : Text) :
    Scans k pos depth bounded t (scanFrom k pos depth bounded t) := by
  fun_induction scanFrom k pos depth bounded t with
  | case1 => exact .nil
  | case2 pos depth bounded c rest ho ih =>
    cases eq_of_beq ho
    exact .openBrace ih
  | case3 pos depth bounded c rest _ hc ih =>
    cases eq_of_beq hc
    exact .closeBrace ih
  | case4 pos depth bounded c rest ho hc hr ih =>
    refine .char (by simpa using ho) (by simpa using hc) ?_ ih
    rintro rfl rfl
    exact after?_of_read_eq_none hr
  | case5 pos depth bounded c rest _ _ size after hr _ ih =>
    have hallowed := eq_of_readIf_ne_none hr (by simp)
    obtain ⟨word, hw, ht, rfl, hh⟩ := Opening.fits_readIf hr
    rw [Bool.and_eq_true, beq_iff_eq] at hallowed
    obtain ⟨rfl, rfl⟩ := hallowed
    rw [ht]
    exact .noBrace hw hh ih
  | case6 pos depth bounded c rest _ _ size after hr _ ih =>
    have hallowed := eq_of_readIf_ne_none hr (by simp)
    obtain ⟨word, header, hw, hh, ht, rfl, hb⟩ := Opening.fits_readIf hr
    rw [Bool.and_eq_true, beq_iff_eq] at hallowed
    obtain ⟨rfl, rfl⟩ := hallowed
    have htext : c :: rest = word ++ header ++ ['\x7b'] ++ after := by rw [ht]; simp
    have hlen : (word ++ header ++ ['\x7b']).length = word.length + header.length + 1 := by
      simp [Nat.add_assoc]
    rw [htext]
    exact .unmatchedBrace hw hh hb (hlen ▸ ih)
  | case7 pos depth bounded c rest _ _ lead header body trailer after hr _ bodyStart =>
    rename_i trailerStart ih
    have hallowed := eq_of_readIf_ne_none hr (by simp)
    obtain ⟨word, hb, ht, rfl⟩ := Opening.fits_readIf hr
    rw [Bool.and_eq_true, beq_iff_eq] at hallowed
    obtain ⟨rfl, rfl⟩ := hallowed
    rw [ht]
    exact .block hb (Block.stop_opened pos word header body trailer ▸ ih)

/-! ## Blocks -/

/-- The pieces of the block follow one another in a text that begins at `pos`. -/
def Block.StandsIn (k : Keyword) (pos : Nat) (t : Text) (b : Block) : Prop :=
  ∃ front word header body trailer after, IsBlock k word header body trailer after ∧
    t = front ++ (pieces word header body trailer ++ after) ∧
    b = .opened (pos + front.length) word.length header body trailer

/-- A block of the rest of a text is a block of the whole text. -/
theorem Block.StandsIn.append {pos : Nat} {b : Block} {s : Text}
    (h : b.StandsIn k (pos + s.length) t) : b.StandsIn k pos (s ++ t) := by
  obtain ⟨front, word, header, body, trailer, after, hb, rfl, rfl⟩ := h
  refine ⟨s ++ front, word, header, body, trailer, after, hb, (List.append_assoc ..).symm, ?_⟩
  rw [List.length_append, Nat.add_assoc]

/-- Every block that a scan finds stands in the text as its pieces say. -/
theorem Scans.standsIn {pos depth : Nat} {bounded : Bool} {scan : Scan} {b : Block}
    (h : Scans k pos depth bounded t scan) (hb : b ∈ scan.blocks) : b.StandsIn k pos t := by
  induction h with
  | nil => cases hb
  | openBrace _ ih => exact (ih hb).append (s := [_])
  | closeBrace _ ih => exact (ih hb).append (s := [_])
  | char _ _ _ _ ih => exact (ih hb).append (s := [_])
  | noBrace _ _ _ ih => exact (ih hb).append
  | unmatchedBrace _ _ _ _ ih => exact (ih hb).append
  | block hblock _ ih =>
    rcases List.mem_cons.mp hb with rfl | hb
    · exact ⟨[], _, _, _, _, _, hblock, rfl, rfl⟩
    · exact (ih hb).append

/-- A keyword that opens no block begins in the text. -/
theorem Scans.malformed_within {pos depth : Nat} {bounded : Bool} {scan : Scan} {m : Malformed}
    (h : Scans k pos depth bounded t scan) (hm : m ∈ scan.malformed) :
    pos ≤ m.start ∧ m.start ≤ pos + t.length := by
  induction h with
  | nil => cases hm
  | openBrace _ ih =>
    have := ih hm
    simp only [List.length_cons]
    omega
  | closeBrace _ ih =>
    have := ih hm
    simp only [List.length_cons]
    omega
  | char _ _ _ _ ih =>
    have := ih hm
    simp only [List.length_cons]
    omega
  | noBrace _ _ _ ih =>
    rcases List.mem_cons.mp hm with rfl | hm
    · simp
    · have := ih hm
      simp only [List.length_append]
      omega
  | unmatchedBrace _ _ _ _ ih =>
    rcases List.mem_cons.mp hm with rfl | hm
    · simp
    · have := ih hm
      rw [List.length_append]
      omega
  | block _ _ ih =>
    have := ih hm
    rw [List.length_append]
    omega

/-- The parts of a block in their order, inside the positions from `low` to `high`. -/
structure Block.Within (low high : Nat) (b : Block) : Prop where
  start : low ≤ b.start
  body : b.start < b.body.start
  trailer : b.body.stop < b.stop
  stop : b.stop ≤ high

/-- The parts of a block that stands in a text follow one another inside the text. -/
theorem Block.StandsIn.within {pos : Nat} {b : Block} (h : b.StandsIn k pos t) :
    b.Within pos (pos + t.length) := by
  obtain ⟨front, word, header, body, trailer, after, -, rfl, rfl⟩ := h
  constructor
  all_goals
    simp only [opened, Block.stop, Fragment.stop, pieces, List.length_append, List.length_cons]
    omega

theorem Block.within_of_mem {f : Fragment} {b : Block} (h : b ∈ (scanBlocks k f).blocks) :
    b.Within f.start f.stop := ((scans_scanFrom ..).standsIn h).within

/-! ## Lines -/

/-- The fragment lies between the positions `low` and `high`. -/
structure Fragment.Within (low high : Nat) (f : Fragment) : Prop where
  start : low ≤ f.start
  stop : f.stop ≤ high

theorem Fragment.Within.mono {low low' high high' : Nat} {f : Fragment} (h : f.Within low high)
    (hl : low' ≤ low) (hh : high ≤ high') : f.Within low' high' :=
  ⟨hl.trans h.start, h.stop.trans hh⟩

/-- What attaching a character to runs may give: the character alone, a run as it was, or the run
right behind it with the character in front. -/
theorem mem_attach {pos : Nat} {c : Char} {f : Fragment} {fs : List Fragment}
    (h : f ∈ Fragment.attach pos c fs) :
    f = ⟨pos, [c]⟩ ∨ f ∈ fs ∨ ∃ g ∈ fs, g.start = pos + 1 ∧ f = ⟨pos, c :: g.chars⟩ := by
  cases fs with
  | nil => exact .inl (List.mem_singleton.mp h)
  | cons g fs =>
    rw [Fragment.attach] at h
    split at h
    · rename_i hg
      rcases List.mem_cons.mp h with rfl | h
      · exact .inr (.inr ⟨g, List.mem_cons_self, eq_of_beq hg, rfl⟩)
      · exact .inr (.inl (List.mem_cons_of_mem _ h))
    · rcases List.mem_cons.mp h with rfl | h
      · exact .inl rfl
      · exact .inr (.inl h)

/-- A run outside the holes lies in the text that it was taken from. -/
theorem within_of_mem_uncovered {holes : List Hole} {pos : Nat} {f : Fragment}
    (h : f ∈ uncovered holes pos t) : f.Within pos (pos + t.length) := by
  induction t generalizing pos f with
  | nil => cases h
  | cons c t ih =>
    have htail {g : Fragment} (hg : g ∈ uncovered holes (pos + 1) t) :
        g.Within pos (pos + (c :: t).length) :=
      (ih hg).mono (Nat.le_succ pos) (by rw [List.length_cons]; omega)
    unfold uncovered at h
    split at h
    · exact htail h
    · rcases mem_attach h with rfl | h | ⟨g, hg, hstart, rfl⟩
      · constructor
        · rfl
        · simp [Fragment.stop]
      · exact htail h
      · have hstop := (ih hg).stop
        constructor
        · rfl
        · simp only [Fragment.stop, List.length_cons] at hstop ⊢
          omega

/-- A line lies in its text, an empty one at the end included. -/
theorem within_of_mem_linesFrom {pos : Nat} {f : Fragment} (h : f ∈ linesFrom pos t) :
    f.Within pos (pos + t.length) := by
  induction t generalizing pos f with
  | nil =>
    cases List.mem_singleton.mp h
    exact ⟨Nat.le_refl _, Nat.le_refl _⟩
  | cons c t ih =>
    have htail {g : Fragment} (hg : g ∈ linesFrom (pos + 1) t) :
        g.Within pos (pos + (c :: t).length) :=
      (ih hg).mono (Nat.le_succ pos) (by rw [List.length_cons]; omega)
    unfold linesFrom at h
    split at h
    · rcases List.mem_cons.mp h with rfl | h
      · exact ⟨Nat.le_refl _, Nat.le_add_right ..⟩
      · exact htail h
    · split at h
      · rename_i g fs hg
        rcases List.mem_cons.mp h with rfl | h
        · have hstop := (ih (hg ▸ List.mem_cons_self)).stop
          have hstart := (ih (hg ▸ List.mem_cons_self)).start
          constructor
          · rfl
          · simp only [Fragment.stop, List.length_cons] at hstop ⊢
            omega
        · exact htail (hg ▸ List.mem_cons_of_mem _ h)
      · cases List.mem_singleton.mp h
        constructor
        · rfl
        · simp [Fragment.stop]

theorem within_of_mem_linesExcluding {f line : Fragment} {holes : List Hole}
    (h : line ∈ linesExcluding f holes) : line.Within f.start f.stop := by
  obtain ⟨run, hrun, hline⟩ := List.mem_flatMap.mp h
  have hr := within_of_mem_uncovered hrun
  exact (within_of_mem_linesFrom hline).mono hr.start hr.stop

/-! ## Notes -/

namespace Noted

variable {α β : Type} {low high : Nat}

/-- What is noted stands between the positions `low` and `high`. -/
def Within (low high : Nat) (x : Noted α) : Prop :=
  ∀ note ∈ x.notes, low ≤ note.start ∧ note.start ≤ high

theorem Within.mono {low' high' : Nat} {x : Noted α} (h : x.Within low high) (hl : low' ≤ low)
    (hh : high ≤ high') : x.Within low' high' :=
  fun note hn => ⟨hl.trans (h note hn).1, (h note hn).2.trans hh⟩

@[simp] theorem within_pure (a : α) : (pure a : Noted α).Within low high := each_pure a

theorem within_note {start : Nat} {issue : Issue} (hl : low ≤ start) (hh : start ≤ high) :
    (note start issue).Within low high := each_note ⟨hl, hh⟩

theorem within_ofNotes {notes : List Note}
    (h : ∀ note ∈ notes, low ≤ note.start ∧ note.start ≤ high) :
    (ofNotes notes).Within low high := h

/-- Runs that note between two positions do so one after the other. -/
theorem Within.bind {x : Noted α} {f : α → Noted β} (hx : x.Within low high)
    (hf : ∀ a, (f a).Within low high) : (x >>= f).Within low high := Each.bind hx hf

theorem within_foldlM {f : β → α → Noted β} {l : List α}
    (h : ∀ b, ∀ a ∈ l, (f b a).Within low high) (b : β) : (l.foldlM f b).Within low high :=
  each_foldlM h b

theorem within_collect {make : α → Noted (Option β)} {l : List α}
    (h : ∀ a ∈ l, (make a).Within low high) : (collect make l).Within low high := each_collect h

end Noted

theorem reportMalformed_within {low high : Nat} {malformed : List Malformed}
    (h : ∀ m ∈ malformed, low ≤ m.start ∧ m.start ≤ high) (k : Keyword) :
    (reportMalformed k malformed).Within low high := by
  refine Noted.within_ofNotes fun note hn => ?_
  obtain ⟨m, hm, rfl⟩ := List.mem_map.mp hn
  exact h m hm

theorem malformed_within {f : Fragment} {m : Malformed} (h : m ∈ (scanBlocks k f).malformed) :
    f.start ≤ m.start ∧ m.start ≤ f.stop := (scans_scanFrom ..).malformed_within h

section

variable {low high start : Nat} (hl : low ≤ start) (hh : start ≤ high)
include hl hh

/-- All issues of options are noted at the one place given for them. -/
theorem readOptions_within (groups : List Text) : (readOptions start groups).Within low high := by
  refine Noted.within_foldlM (fun o part _ => ?_) _
  unfold addOption setOption
  split
  · exact Noted.within_pure o
  · split
    · exact (Noted.within_note hl hh).bind fun _ => Noted.within_pure o
    · split
      · exact Noted.within_pure _
      · split
        · exact Noted.within_pure _
        · exact (Noted.within_note hl hh).bind fun _ => Noted.within_pure o

theorem defineField_within (t : Template) (f : Field) (definition : Text) :
    (defineField start t f definition).Within low high := by
  unfold defineField
  refine (readOptions_within hl hh _).bind fun o => ?_
  split
  · exact Noted.within_pure _
  · split
    · exact (Noted.within_note hl hh).bind fun _ => Noted.within_pure _
    · exact Noted.within_pure _

end

/-- What is wrong with a field line is noted where the line begins. -/
theorem addLine_within {low high : Nat} {line : Fragment} (h : line.Within low high)
    (t : Template) : (addLine t line).Within low high := by
  have hh : line.start ≤ high := (Nat.le_add_right ..).trans h.stop
  unfold addLine
  dsimp only
  split
  · exact Noted.within_pure t
  · split
    · exact defineField_within h.start hh _ _ _
    · exact (Noted.within_note h.start hh).bind fun _ => Noted.within_pure t

theorem addLines_within (t : Template) (f : Fragment) (holes : List Hole) :
    (addLines t (linesExcluding f holes)).Within f.start f.stop :=
  Noted.within_foldlM (fun t _ h => addLine_within (within_of_mem_linesExcluding h) t) t

section

variable {low high : Nat} {b : Block} (h : b.Within low high)
include h

theorem Block.Within.start_le : b.start ≤ high := by
  have := h.body
  have := h.trailer
  have := h.stop
  simp only [Fragment.stop] at *
  omega

theorem Block.Within.note (issue : Issue) : (Noted.note b.start issue).Within low high :=
  Noted.within_note h.start h.start_le

/-- What is noted in the body of a block is noted inside the bounds of the block. -/
theorem Block.Within.of_body {α : Type} {x : Noted α} (hx : x.Within b.body.start b.body.stop) :
    x.Within low high :=
  hx.mono (h.start.trans h.body.le) (h.trailer.le.trans h.stop)

theorem trailerOptions_within : (trailerOptions b).Within low high :=
  readOptions_within h.start h.start_le _

/-- An issue of an `items` block is noted at its keyword, at a block inside it or at one of its
lines. -/
theorem itemTemplate?_within : (itemTemplate? b).Within low high := by
  unfold itemTemplate?
  split
  · exact (h.note _).bind fun _ => Noted.within_pure _
  · refine (trailerOptions_within h).bind fun o => .bind ?_ fun _ => ?_
    · refine h.of_body (Noted.within_ofNotes fun note hn => ?_)
      obtain ⟨inner, hi, rfl⟩ := List.mem_map.mp hn
      exact ⟨(Block.within_of_mem hi).start, (Block.within_of_mem hi).start_le⟩
    · exact (h.of_body (addLines_within _ _ _)).bind fun _ => Noted.within_pure _

end

/-- Every `items` block notes inside its own bounds, and one too many where it begins. -/
theorem firstItems_within {low high : Nat} {blocks : List Block}
    (h : ∀ b ∈ blocks, b.Within low high) (found : Option Template) :
    (firstItems found blocks).Within low high := by
  induction blocks generalizing found with
  | nil => exact Noted.within_pure found
  | cons b blocks ih =>
    have hb := h b List.mem_cons_self
    have ih := ih fun b hb => h b (List.mem_cons_of_mem _ hb)
    cases found with
    | none => exact (itemTemplate?_within hb).bind ih
    | some t => exact (hb.note _).bind fun _ => ih _

theorem sectionBody_within (t : Template) (body : Fragment) :
    (sectionBody t body).Within body.start body.stop := by
  unfold sectionBody
  refine (reportMalformed_within (fun m => malformed_within) _).bind fun _ => .bind ?_ fun _ => ?_
  · exact firstItems_within (fun b => Block.within_of_mem) none
  · exact (addLines_within _ _ _).bind fun _ => Noted.within_pure _

/-- An issue of a section is noted at its keyword or in its body. -/
theorem section?_within {low high : Nat} {b : Block} (h : b.Within low high) :
    (section? b).Within low high := by
  unfold section?
  dsimp only
  split
  · exact (h.note _).bind fun _ => Noted.within_pure _
  · split
    · exact (h.note _).bind fun _ => Noted.within_pure _
    · refine (trailerOptions_within h).bind fun o => .bind ?_ fun _ => Noted.within_pure _
      exact h.of_body (sectionBody_within _ _)

/-- What is noted about a fragment stands in it. -/
theorem sections_within (f : Fragment) : (sections f).Within f.start f.stop :=
  (reportMalformed_within (fun _ => malformed_within) _).bind fun _ =>
    Noted.within_collect fun _ hb => section?_within (Block.within_of_mem hb)

/-- An issue of a path block is noted at its keyword or in its body, where its sections are. -/
theorem addScope_within {low high : Nat} {b : Block} (h : b.Within low high)
    (scopes : List PathScope) : (addScope scopes b).Within low high := by
  refine Noted.Within.bind ?_ fun _ => Noted.within_pure _
  unfold scope?
  dsimp only
  split
  · exact (h.note _).bind fun _ => Noted.within_pure _
  · split
    · exact (h.note _).bind fun _ => Noted.within_pure _
    · refine (h.of_body (sections_within _)).bind fun rules => ?_
      split
      · exact Noted.within_pure _
      · split
        · exact Noted.within_pure _
        · exact (h.note _).bind fun _ => Noted.within_pure _

/-- What is noted about a text stands in it. -/
theorem scopes_within (f : Fragment) : (scopes f).Within f.start f.stop := by
  unfold scopes
  refine (reportMalformed_within (fun _ => malformed_within) _).bind fun _ => ?_
  split
  · exact (sections_within f).bind fun _ => Noted.within_pure _
  · refine (Noted.within_ofNotes fun note hn => ?_).bind fun _ => ?_
    · obtain ⟨b, hb, rfl⟩ := List.mem_map.mp hn
      exact ⟨(Block.within_of_mem hb).start, (Block.within_of_mem hb).start_le⟩
    · have hstep (scopes : List PathScope) (b : Block) (hb : b ∈ (scanBlocks .path f).blocks) :=
        addScope_within (Block.within_of_mem hb) scopes
      exact Noted.within_foldlM hstep []

end PageRules.RuleText
