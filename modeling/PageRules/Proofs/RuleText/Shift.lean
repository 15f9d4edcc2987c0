import Mathlib
import PageRules.Proofs.RuleText.Noted
import PageRules.Proofs.RuleText.Opening
import PageRules.RuleText.Compile

/-!
# Positions only name places

Compiling looks at positions only to note where issues are. A fragment that stands `n` characters
further on gives the same rules, and the same notes `n` characters further on (`scopes_shift`).
-/

namespace PageRules.RuleText

/-! ## Things further on -/

/-- The same text, `n` characters further on. -/
def Fragment.shift (n : Nat) (f : Fragment) : Fragment := { f with start := f.start + n }

def Block.shift (n : Nat) (b : Block) : Block :=
  ⟨b.start + n, b.header.shift n, b.body.shift n, b.trailer.shift n⟩

def Malformed.shift (n : Nat) (m : Malformed) : Malformed := { m with start := m.start + n }

def Scan.shift (n : Nat) (s : Scan) : Scan :=
  ⟨s.blocks.map (·.shift n), s.malformed.map (·.shift n)⟩

def Hole.shift (n : Nat) (h : Hole) : Hole := ⟨h.start + n, h.stop + n⟩

def Note.shift (n : Nat) (note : Note) : Note := { note with start := note.start + n }

/-- The same value, noted further on. -/
def Noted.shift {α : Type} (n : Nat) (x : Noted α) : Noted α := ⟨x.value, x.notes.map (·.shift n)⟩

variable {n : Nat}

@[simp] theorem Fragment.start_shift (f : Fragment) : (f.shift n).start = f.start + n := rfl
@[simp] theorem Fragment.chars_shift (f : Fragment) : (f.shift n).chars = f.chars := rfl
@[simp] theorem Fragment.text_shift (f : Fragment) : (f.shift n).text = f.text := rfl

@[simp] theorem Block.start_shift (b : Block) : (b.shift n).start = b.start + n := rfl
@[simp] theorem Block.header_shift (b : Block) : (b.shift n).header = b.header.shift n := rfl
@[simp] theorem Block.body_shift (b : Block) : (b.shift n).body = b.body.shift n := rfl
@[simp] theorem Block.trailer_shift (b : Block) : (b.shift n).trailer = b.trailer.shift n := rfl

/-- A block ends further on, too: its length is that of its parts. -/
@[simp] theorem Block.stop_shift (b : Block) : (b.shift n).stop = b.stop + n := by
  rw [stop, trailer_shift, Fragment.stop, Fragment.start_shift, Fragment.chars_shift,
    Nat.add_right_comm]
  rfl

@[simp] theorem Block.hole_shift (b : Block) : (b.shift n).hole = b.hole.shift n := by
  rw [hole, stop_shift]
  rfl

/-- The hole of a keyword ends at the end of its line, which is found in the same text. -/
@[simp] theorem Malformed.hole_shift (body : Fragment) (m : Malformed) :
    (m.shift n).hole (body.shift n) = (m.hole body).shift n := by
  have hd : m.start + n - (body.start + n) = m.start - body.start := by omega
  simp only [hole, shift, Hole.shift, Fragment.start_shift, Fragment.chars_shift, hd,
    Hole.mk.injEq, true_and]
  omega

@[simp] theorem Scan.shift_consBlock (b : Block) (s : Scan) :
    (s.consBlock b).shift n = (s.shift n).consBlock (b.shift n) := rfl

@[simp] theorem Scan.shift_consMalformed (m : Malformed) (s : Scan) :
    (s.consMalformed m).shift n = (s.shift n).consMalformed (m.shift n) := rfl

@[simp] theorem Scan.blocks_shift (s : Scan) : (s.shift n).blocks = s.blocks.map (·.shift n) := rfl

@[simp] theorem Scan.malformed_shift (s : Scan) :
    (s.shift n).malformed = s.malformed.map (·.shift n) := rfl

/-! ## Runs that note -/

namespace Noted

variable {α β : Type}

@[simp] theorem value_shift (x : Noted α) : (x.shift n).value = x.value := rfl

@[simp] theorem shift_pure (a : α) : (pure a : Noted α).shift n = pure a := rfl

/-- Notes of two runs in a row are further on when those of each are. -/
@[simp] theorem shift_bind (x : Noted α) (f : α → Noted β) :
    (x >>= f).shift n = x.shift n >>= fun a => (f a).shift n := by
  change (⟨_, _⟩ : Noted β) = ⟨_, _⟩
  rw [notes_bind, List.map_append]
  rfl

@[simp] theorem shift_note (start : Nat) (issue : Issue) :
    (note start issue).shift n = note (start + n) issue := rfl

@[simp] theorem shift_ofNotes (notes : List Note) :
    (ofNotes notes).shift n = ofNotes (notes.map (·.shift n)) := rfl

/-- A fold whose steps note further on. -/
theorem foldlM_shift {f f' : β → α → Noted β} {g : α → α}
    (h : ∀ b a, f' b (g a) = (f b a).shift n) (l : List α) (b : β) :
    (l.map g).foldlM f' b = (l.foldlM f b).shift n := by
  induction l generalizing b with
  | nil => rfl
  | cons a l ih =>
    rw [List.map_cons, List.foldlM_cons, List.foldlM_cons, shift_bind, h]
    exact congrArg (_ >>= ·) (funext ih)

/-- The same for values collected one by one. -/
theorem collect_shift {make : α → Noted (Option β)} {g : α → α}
    (h : ∀ a, make (g a) = (make a).shift n) (l : List α) :
    collect make (l.map g) = (collect make l).shift n := by
  induction l with
  | nil => rfl
  | cons a l ih =>
    rw [List.map_cons, collect, collect, ih, h, shift_bind]
    refine congrArg (_ >>= ·) (funext fun made => ?_)
    rw [shift_bind]
    rfl

end Noted

/-! ## Scans -/

/-- A block that is opened further on is the block further on. -/
@[simp] theorem Block.shift_opened (pos lead : Nat) (header body trailer : Text) :
    (opened pos lead header body trailer).shift n = opened (pos + n) lead header body trailer := by
  simp only [opened, shift, Fragment.shift, mk.injEq, Fragment.mk.injEq, and_true, true_and]
  omega

/-- A scan uses the position only to say where its finds are. -/
theorem scanFrom_shift (k : Keyword) (pos depth : Nat) (b : Bool) (t : Text) :
    scanFrom k (pos + n) depth b t = (scanFrom k pos depth b t).shift n := by
  fun_induction scanFrom k pos depth b t with
  | case1 => rw [scanFrom_nil]; rfl
  | case2 pos depth b c rest ho ih =>
    cases eq_of_beq ho
    rw [scanFrom_open, ← ih, Nat.add_right_comm]
  | case3 pos depth b c rest _ hc ih =>
    cases eq_of_beq hc
    rw [scanFrom_close, ← ih, Nat.add_right_comm]
  | case4 pos depth b c rest ho hc hr ih =>
    rw [scanFrom_step (by simpa using ho) (by simpa using hc), hr, Opening.goOn, ← ih,
      Nat.add_right_comm]
  | case5 pos depth b c rest ho hc size after hr _ ih =>
    rw [scanFrom_step (by simpa using ho) (by simpa using hc), hr, Opening.goOn,
      Scan.shift_consMalformed, ← ih, Nat.add_right_comm]
    rfl
  | case6 pos depth b c rest ho hc size after hr _ ih =>
    rw [scanFrom_step (by simpa using ho) (by simpa using hc), hr, Opening.goOn,
      Scan.shift_consMalformed, ← ih, Nat.add_right_comm]
    rfl
  | case7 pos depth b c rest ho hc lead header body trailer after hr _ bodyStart trailerStart ih =>
    have hblock :
        (⟨pos, ⟨pos + lead, header⟩, ⟨bodyStart, body⟩, ⟨trailerStart, trailer⟩⟩ : Block) =
      .opened pos lead header body trailer := rfl
    rw [scanFrom_step (by simpa using ho) (by simpa using hc), hr, Opening.goOn,
      Scan.shift_consBlock, ← ih, hblock, ← Block.shift_opened, Block.stop_shift]
    rfl

theorem scanBlocks_shift (k : Keyword) (f : Fragment) :
    scanBlocks k (f.shift n) = (scanBlocks k f).shift n := scanFrom_shift ..

/-! ## Lines -/

/-- A character is attached to the run behind it further on as well. -/
theorem attach_shift (pos : Nat) (c : Char) (fs : List Fragment) :
    Fragment.attach (pos + n) c (fs.map (·.shift n)) =
      (Fragment.attach pos c fs).map (·.shift n) := by
  cases fs with
  | nil => rfl
  | cons f fs =>
    by_cases h : f.start = pos + 1
    · simp [Fragment.attach, h, Fragment.shift, Nat.add_right_comm]
    · have hn : ¬ f.start + n = pos + n + 1 := by omega
      simp [Fragment.attach, h, hn, Fragment.shift]

/-- The runs outside holes that cut out the same, further on. -/
theorem uncovered_congr {holes holes' : List Hole} {pos : Nat} {t : Text}
    (h : ∀ i < t.length, holes'.any (·.covers (pos + n + i)) = holes.any (·.covers (pos + i))) :
    uncovered holes' (pos + n) t = (uncovered holes pos t).map (·.shift n) := by
  induction t generalizing pos with
  | nil => rfl
  | cons c t ih =>
    have hc := h 0 (by simp)
    have ht : uncovered holes' (pos + 1 + n) t = (uncovered holes (pos + 1) t).map (·.shift n) := by
      refine ih fun i hi => ?_
      have := h (i + 1) (by simpa using hi)
      rwa [← Nat.add_assoc, Nat.add_right_comm _ i, ← Nat.add_assoc, Nat.add_right_comm pos i,
        Nat.add_right_comm pos n] at this
    rw [Nat.add_right_comm] at ht
    simp only [Nat.add_zero] at hc
    rw [uncovered, uncovered, hc, ht, attach_shift]
    split <;> rfl

/-- The lines of a text are further on with the text. -/
theorem linesFrom_shift (pos : Nat) (t : Text) :
    linesFrom (pos + n) t = (linesFrom pos t).map (·.shift n) := by
  induction t generalizing pos with
  | nil => rfl
  | cons c t ih =>
    rw [linesFrom, linesFrom, Nat.add_right_comm, ih]
    split
    · rfl
    · cases linesFrom (pos + 1) t <;> rfl

/-- The lines outside holes depend only on what the holes cut out. -/
theorem linesExcluding_congr {f : Fragment} {holes holes' : List Hole}
    (h : ∀ i < f.chars.length,
      holes'.any (·.covers (f.start + n + i)) = holes.any (·.covers (f.start + i))) :
    linesExcluding (f.shift n) holes' = (linesExcluding f holes).map (·.shift n) := by
  rw [linesExcluding, linesExcluding, Fragment.start_shift, Fragment.chars_shift,
    uncovered_congr h, List.flatMap_map, List.map_flatMap]
  congr 1
  funext run
  exact linesFrom_shift ..

/-- Lines outside holes are further on when fragment and holes are. -/
theorem linesExcluding_shift (f : Fragment) (holes : List Hole) :
    linesExcluding (f.shift n) (holes.map (·.shift n)) =
      (linesExcluding f holes).map (·.shift n) := by
  refine linesExcluding_congr fun i _ => ?_
  rw [List.any_map, Nat.add_right_comm]
  congr 1
  funext h
  simp [Hole.covers, Hole.shift]

/-! ## Compiling -/

theorem setOption_shift (start : Nat) (o : OptionSet) (key : Text) (written? : Option Text) :
    setOption (start + n) o key written? = (setOption start o key written?).shift n := by
  unfold setOption
  split
  · rfl
  · split
    · rfl
    · cases written? with
      | none => rfl
      | some written =>
        dsimp only
        cases OptionValue.read key written <;> rfl

/-- Options are read the same further on, and their issues are noted further on. -/
theorem readOptions_shift (start : Nat) (groups : List Text) :
    readOptions (start + n) groups = (readOptions start groups).shift n := by
  have hpart (o : OptionSet) (part : Text) :
      addOption (start + n) o (id part) = (addOption start o part).shift n := setOption_shift ..
  have h := Noted.foldlM_shift hpart (groups.flatMap (Text.splitOn (· == ','))) .empty
  rwa [List.map_id] at h

theorem trailerOptions_shift (b : Block) :
    trailerOptions (b.shift n) = (trailerOptions b).shift n := readOptions_shift ..

theorem reportMalformed_shift (k : Keyword) (malformed : List Malformed) :
    reportMalformed k (malformed.map (·.shift n)) = (reportMalformed k malformed).shift n := by
  rw [reportMalformed, reportMalformed, Noted.shift_ofNotes, List.map_map, List.map_map]
  rfl

/-- A field is defined the same further on, and so is a fault of its definition. -/
theorem defineField_shift (start : Nat) (t : Template) (f : Field) (definition : Text) :
    defineField (start + n) t f definition = (defineField start t f definition).shift n := by
  unfold defineField
  dsimp only
  rw [readOptions_shift, Noted.shift_bind]
  refine congrArg (_ >>= ·) (funext fun o => ?_)
  split
  · rfl
  · split <;> rfl

/-- A line says the same further on. -/
theorem addLine_shift (t : Template) (line : Fragment) :
    addLine t (line.shift n) = (addLine t line).shift n := by
  unfold addLine
  rw [Fragment.text_shift, Fragment.start_shift]
  dsimp only
  split
  · rfl
  · split
    · exact defineField_shift ..
    · rfl

theorem addLines_shift (t : Template) (lines : List Fragment) :
    addLines t (lines.map (·.shift n)) = (addLines t lines).shift n :=
  Noted.foldlM_shift addLine_shift lines t

theorem map_hole_shift (blocks : List Block) :
    (blocks.map (·.shift n)).map Block.hole = (blocks.map Block.hole).map (·.shift n) := by
  rw [List.map_map, List.map_map]
  exact List.map_congr_left fun b _ => b.hole_shift

/-- An `items` block makes the same template further on. -/
theorem itemTemplate?_shift (b : Block) :
    itemTemplate? (b.shift n) = (itemTemplate? b).shift n := by
  unfold itemTemplate?
  rw [Block.header_shift, Fragment.text_shift, Block.body_shift, scanBlocks_shift,
    trailerOptions_shift]
  split
  · rfl
  · dsimp only
    rw [Scan.blocks_shift, map_hole_shift, linesExcluding_shift, List.map_map]
    simp only [addLines_shift, Noted.shift_bind, Noted.shift_ofNotes, Noted.shift_pure,
      List.map_map]
    rfl

/-- Which of several `items` blocks is the first depends on their order only. -/
theorem firstItems_shift (found : Option Template) (blocks : List Block) :
    firstItems found (blocks.map (·.shift n)) = (firstItems found blocks).shift n := by
  induction blocks generalizing found with
  | nil => rfl
  | cons b blocks ih =>
    cases found with
    | none =>
      rw [List.map_cons, firstItems, firstItems, itemTemplate?_shift, Noted.shift_bind]
      exact congrArg (_ >>= ·) (funext ih)
    | some t =>
      rw [List.map_cons, firstItems, firstItems, Noted.shift_bind]
      exact congrArg (_ >>= ·) (funext fun _ => ih _)

/-- The body of a section adds the same fields and items further on. -/
theorem sectionBody_shift (t : Template) (body : Fragment) :
    sectionBody t (body.shift n) = (sectionBody t body).shift n := by
  have hholes (malformed : List Malformed) :
      (malformed.map (·.shift n)).map (Malformed.hole (body.shift n)) =
        (malformed.map (Malformed.hole body)).map (·.shift n) := by
    rw [List.map_map, List.map_map]
    exact List.map_congr_left fun m _ => m.hole_shift body
  unfold sectionBody
  rw [scanBlocks_shift]
  dsimp only
  rw [Scan.malformed_shift, Scan.blocks_shift, reportMalformed_shift, firstItems_shift, hholes,
    map_hole_shift, ← List.map_append, linesExcluding_shift, addLines_shift]
  simp only [Noted.shift_bind, Noted.shift_pure]

/-- A section makes the same rule further on. -/
theorem section?_shift (b : Block) : section? (b.shift n) = (section? b).shift n := by
  unfold section?
  rw [Block.header_shift, Fragment.text_shift, Block.start_shift, trailerOptions_shift,
    Block.body_shift]
  dsimp only
  split
  · rfl
  · split
    · rfl
    · simp only [sectionBody_shift, Noted.shift_bind, Noted.shift_pure]

/-- The rules of a fragment do not depend on where it stands. -/
theorem sections_shift (f : Fragment) : sections (f.shift n) = (sections f).shift n := by
  unfold sections
  rw [scanBlocks_shift]
  dsimp only
  rw [Scan.malformed_shift, Scan.blocks_shift, reportMalformed_shift,
    Noted.collect_shift section?_shift, Noted.shift_bind]

/-- Whether a path block makes a scope depends on its pattern and its rules, not on its place. -/
theorem scope?_shift (scopes : List PathScope) (b : Block) :
    scope? scopes (b.shift n) = (scope? scopes b).shift n := by
  unfold scope?
  rw [Block.header_shift, Fragment.text_shift, Block.start_shift, Block.body_shift, sections_shift]
  dsimp only
  split
  · rfl
  · split
    · rfl
    · rw [Noted.shift_bind]
      refine congrArg (_ >>= ·) (funext fun rules => ?_)
      split
      · rfl
      · cases PathScope.of b.header.text rules <;> rfl

theorem addScope_shift (scopes : List PathScope) (b : Block) :
    addScope scopes (b.shift n) = (addScope scopes b).shift n := by
  rw [addScope, addScope, scope?_shift, Noted.shift_bind]
  rfl

/-- The scopes of a text do not depend on where it stands. -/
theorem scopes_shift (f : Fragment) : scopes (f.shift n) = (scopes f).shift n := by
  unfold scopes
  rw [scanBlocks_shift, scanBlocks_shift, sections_shift]
  dsimp only
  rw [Scan.malformed_shift, Scan.blocks_shift, Scan.blocks_shift, reportMalformed_shift,
    Noted.shift_bind, List.isEmpty_map]
  refine congrArg (_ >>= ·) (funext fun _ => ?_)
  split
  · rw [Noted.shift_bind]
    rfl
  · rw [Noted.shift_bind, Noted.shift_ofNotes, List.map_map, List.map_map,
      Noted.foldlM_shift addScope_shift]
    rfl

end PageRules.RuleText
