import Mathlib
import PageRules.Proofs.RuleText.Insert
import PageRules.Proofs.RuleText.SilentLine

/-!
# A line that says nothing

Where a line that says nothing stands in a fragment, compiling makes of the fragment what it makes
of it with the line empty, and notes the same; what stands behind the line is noted as many
characters further on as the line has (`sectionBody_inserted`).
-/

namespace PageRules.RuleText

variable {k : Keyword} {t v w line : Text} {q n : Nat}

/-! ## Notes -/

/-- Where a position comes to stand when `n` characters are put in at `q`. -/
def moved (q n p : Nat) : Nat := if p < q then p else p + n

/-- The note, where its place comes to stand. -/
def Note.move (q n : Nat) (note : Note) : Note := { note with start := moved q n note.start }

namespace Noted

variable {α β : Type}

/-- The same value, noted where the places come to stand. -/
def move (q n : Nat) (x : Noted α) : Noted α := ⟨x.value, x.notes.map (·.move q n)⟩

@[simp] theorem move_bind (x : Noted α) (f : α → Noted β) :
    (x >>= f).move q n = x.move q n >>= fun a => (f a).move q n := by
  change (⟨_, _⟩ : Noted β) = ⟨_, _⟩
  rw [notes_bind, List.map_append]
  rfl

/-- What is noted in front of the place stays where it is. -/
theorem Within.move_eq {low high : Nat} {x : Noted α} (h : x.Within low high) (hq : high < q) :
    x.move q n = x := by
  have hnotes : x.notes.map (·.move q n) = x.notes := by
    refine (List.map_congr_left fun note hn => ?_).trans (List.map_id _)
    have := (h note hn).2
    rw [Note.move, moved, if_pos (by omega)]
    rfl
  rw [move, hnotes]

/-- What is noted behind the place is noted further on. -/
theorem Within.move_eq_shift {low high : Nat} {x : Noted α} (h : x.Within low high)
    (hq : q ≤ low) : x.move q n = x.shift n := by
  rw [move, shift]
  congr 1
  refine List.map_congr_left fun note hn => ?_
  have := (h note hn).1
  rw [Note.move, moved, if_neg (by omega)]
  rfl

/-- A fold whose steps note where the places come to stand. -/
theorem foldlM_move {f f' : β → α → Noted β} {l l' : List α}
    (h : List.Forall₂ (fun a a' => ∀ b, f' b a' = (f b a).move q n) l l') (b : β) :
    l'.foldlM f' b = (l.foldlM f b).move q n := by
  induction h generalizing b with
  | nil => rfl
  | cons ha _ ih =>
    rw [List.foldlM_cons, List.foldlM_cons, move_bind, ha]
    exact congrArg (_ >>= ·) (funext ih)

theorem collect_move {make : α → Noted (Option β)} {l l' : List α}
    (h : List.Forall₂ (fun a a' => make a' = (make a).move q n) l l') :
    collect make l' = (collect make l).move q n := by
  induction h with
  | nil => rfl
  | cons ha _ ih =>
    rw [collect, collect, ih, ha, move_bind]
    refine congrArg (_ >>= ·) (funext fun made => ?_)
    rw [move_bind]
    rfl

/-- Notes at the starts of things that stand where these come to stand. -/
theorem ofNotes_move {start : α → Nat} {issue : α → Issue} {l l' : List α}
    (h : List.Forall₂ (fun a a' => start a' = moved q n (start a) ∧ issue a' = issue a) l l') :
    ofNotes (l'.map fun a => ⟨start a, issue a⟩) =
      (ofNotes (l.map fun a => ⟨start a, issue a⟩)).move q n := by
  refine congrArg (Noted.mk ()) ?_
  change l'.map _ = (l.map _).map _
  induction h with
  | nil => rfl
  | cons ha _ ih =>
    rw [List.map_cons, List.map_cons, List.map_cons, ih, ha.1, ha.2]
    rfl

end Noted

/-! ## Blocks -/

/-- A keyword that opens no block is where its place comes to stand, with the same defect. -/
theorem Malformed.Inserted.start_eq {m m' : Malformed} (h : m.Inserted q line m') :
    m'.start = moved q line.length m.start ∧ m'.defect = m.defect := by
  cases h with
  | before h => exact ⟨(if_pos h).symm, rfl⟩
  | behind h => exact ⟨(if_neg (by omega)).symm, rfl⟩

theorem reportMalformed_inserted (k : Keyword) {malformed malformed' : List Malformed}
    (h : List.Forall₂ (Malformed.Inserted q line) malformed malformed') :
    reportMalformed k malformed' = (reportMalformed k malformed).move q line.length :=
  Noted.ofNotes_move (h.imp fun _ _ h =>
    ⟨h.start_eq.1, congrArg (Issue.malformed k) h.start_eq.2⟩)

namespace Block.Inserted

variable {b b' : Block}

/-- A block begins where its place comes to stand, also when the line is inside it. -/
theorem start_eq (h : b.Inserted q line b') : b'.start = moved q line.length b.start := by
  cases h with
  | before h hq =>
    have := h.start_le
    exact (if_pos (by omega)).symm
  | behind h hq =>
    have := h.start
    exact (if_neg (by omega)).symm
  | around h => exact h.start_eq.trans (if_pos h.start).symm

/-- What a block makes is the same where it is so for a block around the line. -/
theorem move_eq {α : Type} {make : Block → Noted α}
    (hwithin : ∀ {low high b}, b.Within low high → (make b).Within low high)
    (hshift : ∀ {n} b, make (b.shift n) = (make b).shift n) (h : b.Inserted q line b')
    (haround : b.Around q line b' → make b' = (make b).move q line.length) :
    make b' = (make b).move q line.length := by
  cases h with
  | before h hq => exact ((hwithin h).move_eq hq).symm
  | behind h hq => rw [hshift, (hwithin h).move_eq_shift (Nat.le_of_lt hq)]
  | around h => exact haround h

end Block.Inserted

theorem ofNotes_inserted (issue : Issue) {blocks blocks' : List Block}
    (h : List.Forall₂ (Block.Inserted q line) blocks blocks') :
    Noted.ofNotes (blocks'.map fun b => ⟨b.start, issue⟩) =
      (Noted.ofNotes (blocks.map fun b => ⟨b.start, issue⟩)).move q line.length :=
  Noted.ofNotes_move (h.imp fun _ _ h => ⟨h.start_eq, rfl⟩)

/-! ## Holes -/

/-- Where the character at a position stood before `n` characters were put in at `q`; those stand
where the line break behind them stood. -/
def unmoved (q n p : Nat) : Nat := if p < q then p else if p < q + n then q else p - n

theorem unmoved_of_lt {p : Nat} (h : p < q) : unmoved q n p = p := if_pos h

theorem unmoved_add {p : Nat} (h : q ≤ p) : unmoved q n (p + n) = p := by
  rw [unmoved, if_neg (by omega), if_neg (by omega), Nat.add_sub_cancel]

theorem unmoved_inside {i : Nat} (h : i < n) : unmoved q n (q + i) = q := by
  rw [unmoved, if_neg (by omega), if_pos (by omega)]

/-- The holes cut out the same. -/
def HolesInserted (q n : Nat) (holes holes' : List Hole) : Prop :=
  ∀ p, holes'.any (·.covers p) = holes.any (·.covers (unmoved q n p))

theorem HolesInserted.append {holes holes' more more' : List Hole}
    (h : HolesInserted q n holes holes') (hmore : HolesInserted q n more more') :
    HolesInserted q n (holes ++ more) (holes' ++ more') := by
  intro p
  rw [List.any_append, List.any_append, h, hmore]

theorem holesInserted_map {α : Type} {hole hole' : α → Hole} {l l' : List α}
    (h : List.Forall₂ (fun a a' => ∀ p, (hole' a').covers p = (hole a).covers (unmoved q n p))
      l l') : HolesInserted q n (l.map hole) (l'.map hole') := by
  intro p
  induction h with
  | nil => rfl
  | cons ha _ ih => rw [List.map_cons, List.map_cons, List.any_cons, List.any_cons, ih, ha]

theorem Hole.covers_iff {h : Hole} {p : Nat} : h.covers p = true ↔ h.start ≤ p ∧ p < h.stop := by
  simp [covers]

theorem Hole.covers_shift {h : Hole} (hq : q < h.start) (p : Nat) :
    (h.shift n).covers p = h.covers (unmoved q n p) := by
  rw [Bool.eq_iff_iff]
  simp only [covers_iff, shift, unmoved]
  split_ifs <;> omega

theorem Hole.covers_before {h : Hole} (hq : h.stop ≤ q) (p : Nat) :
    h.covers p = h.covers (unmoved q n p) := by
  rw [Bool.eq_iff_iff]
  simp only [covers_iff, unmoved]
  split_ifs <;> omega

/-- A hole around the line has grown by the line and cuts all of it out. -/
theorem Hole.covers_around {h h' : Hole} (hstart : h'.start = h.start)
    (hstop : h'.stop = h.stop + n) (hlt : h.start < q) (hq : q < h.stop) (p : Nat) :
    h'.covers p = h.covers (unmoved q n p) := by
  rw [Bool.eq_iff_iff]
  simp only [covers_iff, unmoved]
  split_ifs <;> omega

/-- The hole of a block cuts out what it cut out before, whichever way the block stands to the
line. -/
theorem Block.Inserted.covers_hole {b b' : Block} (h : b.Inserted q line b') (p : Nat) :
    b'.hole.covers p = b.hole.covers (unmoved q line.length p) := by
  cases h with
  | before h hq => exact Hole.covers_before (h.stop.trans (Nat.le_of_lt hq)) p
  | behind h hq =>
    rw [Block.hole_shift]
    exact Hole.covers_shift (hq.trans_le h.start) p
  | around h =>
    refine Hole.covers_around h.start_eq ?_ h.start h.stop p
    simp only [hole, Block.stop, h.trailer_eq, Fragment.stop, Fragment.start_shift,
      Fragment.chars_shift]
    omega

/-- The holes of the blocks of a scan cut out the same. -/
theorem Scan.Inserted.holes {s s' : Scan} (h : Scan.Inserted q line s s') :
    HolesInserted q line.length (s.blocks.map Block.hole) (s'.blocks.map Block.hole) :=
  holesInserted_map (h.blocks.imp fun _ _ hb => hb.covers_hole)

/-- What is left of a line does not depend on the text behind its line break. -/
theorem takeWhile_drop_append {i : Nat} (h : i ≤ w.length) (s : Text) :
    ((w ++ '\n' :: s).drop i).takeWhile (· != '\n') = (w.drop i).takeWhile (· != '\n') := by
  rw [List.drop_append_of_le_length h, List.takeWhile_append]
  split
  · rename_i hall
    rw [(List.takeWhile_prefix _).eq_of_length hall]
    simp
  · rfl

theorem drop_withLine (w line v : Text) (i : Nat) :
    (withLine w line v).drop (w.length + 2 + i + line.length) = v.drop i := by
  have htext : withLine w line v = w ++ '\n' :: line ++ ['\n'] ++ v := by simp [withLine]
  have hlength : w.length + 2 + i + line.length =
      (w ++ '\n' :: line ++ ['\n']).length + i := by
    simp only [List.length_append, List.length_cons, List.length_nil]
    omega
  rw [htext, hlength, List.drop_append, List.drop_eq_nil_of_le (Nat.le_add_right ..),
    List.nil_append, Nat.add_sub_cancel_left]

/-- The hole of a malformed keyword reaches to the end of its own line, and this line stands in
front of the one put in or behind it. -/
theorem Malformed.Inserted.covers_hole {m m' : Malformed} (h : m.Inserted q line m')
    {f f' : Fragment} (hf : f.Inserted q line f') (hm : f.start ≤ m.start) (p : Nat) :
    (m'.hole f').covers p = (m.hole f).covers (unmoved q line.length p) := by
  obtain ⟨hq⟩ := hf
  rename_i start w v
  cases h with
  | before h =>
    have hle : m.start - start ≤ w.length := by omega
    have hhole (line : Text) : m.hole ⟨start, withLine w line v⟩ =
        ⟨m.start, m.start + ((w.drop (m.start - start)).takeWhile (· != '\n')).length⟩ := by
      rw [Malformed.hole, withLine, takeWhile_drop_append hle]
    rw [hhole, hhole]
    refine Hole.covers_before ?_ p
    have := (List.takeWhile_prefix (· != '\n') (l := w.drop (m.start - start))).length_le
    rw [List.length_drop] at this
    simp only at hm ⊢
    omega
  | behind h =>
    obtain ⟨i, hi⟩ : ∃ i, m.start - start = w.length + 2 + i := Nat.exists_eq_add_of_le (by omega)
    have hmoved : m.start + line.length - start = w.length + 2 + i + line.length := by omega
    have hhole : (m.shift line.length).hole ⟨start, withLine w line v⟩ =
        (m.hole ⟨start, withLine w [] v⟩).shift line.length := by
      have hdrop := drop_withLine w [] v i
      rw [List.length_nil, Nat.add_zero] at hdrop
      simp only [Malformed.hole, Malformed.shift, Hole.shift, hi, hmoved, drop_withLine, hdrop,
        Hole.mk.injEq, true_and]
      omega
    rw [hhole]
    exact Hole.covers_shift h p

/-! ## Lines -/

/-- A line that begins with `#` and closes its braces, and in which a scan for items finds
nothing. -/
@[mk_iff] structure HashLine (line : Text) : Prop where
  hash : (Text.trim line).head? = some '#'
  one_line : '\n' ∉ line
  braces_closed : braceDepth? 0 line = some 0
  no_items : scanBlocks .items ⟨0, line⟩ = {}

instance (line : Text) : Decidable (HashLine line) := decidable_of_iff' _ (hashLine_iff line)

/-- A `#` line defines nothing, wherever it stands. -/
theorem HashLine.not_speaks (h : HashLine line) (pos : Nat) : speaks ⟨pos, line⟩ = false := by
  rw [speaks, decide_eq_false_iff_not, not_not]
  exact .inr h.hash

/-- A scan for items finds nothing in a `#` line, wherever it stands. -/
theorem HashLine.silent (h : HashLine line) (pos : Nat) : scanFrom .items pos 0 true line = {} := by
  have hscan : scanFrom .items 0 0 true line = {} := h.no_items
  rw [← Nat.zero_add pos, scanFrom_shift, hscan]
  rfl

section

variable (hline : HashLine line)
include hline

/-- The lines that say something are the same, in front of the place and behind it. -/
theorem addLines_inserted {f f' : Fragment} (hf : f.Inserted q line f') {holes holes' : List Hole}
    (hholes : HolesInserted q line.length holes holes') (t : Template) :
    addLines t (linesExcluding f' holes') =
      (addLines t (linesExcluding f holes)).move q line.length := by
  obtain ⟨hq⟩ := hf
  rename_i start w v
  have hempty : speaking ⟨q, []⟩ holes = [] := rfl
  have hsilent : speaking ⟨q, line⟩ holes' = [] := by
    refine speaking_line hline.one_line (hline.not_speaks q) fun i hi => ?_
    have hfirst := unmoved_inside (q := q) (i := 0) (Nat.zero_lt_of_lt hi)
    rw [Nat.add_zero] at hfirst
    rw [hholes, hholes, unmoved_inside hi, hfirst]
  have hfront : speaking ⟨start, w⟩ holes' = speaking ⟨start, w⟩ holes := by
    have hsame : speaking ⟨start + 0, w⟩ holes' = (speaking ⟨start, w⟩ holes).map (·.shift 0) :=
      speaking_congr fun i hi => by rw [hholes, Nat.add_zero, unmoved_of_lt (by omega)]
    have hid : Fragment.shift 0 = id := rfl
    rwa [hid, List.map_id] at hsame
  have hbehind : speaking ⟨q + 1 + line.length, v⟩ holes' =
      (speaking ⟨q + 1, v⟩ holes).map (·.shift line.length) := by
    refine speaking_congr fun i _ => ?_
    rw [hholes, Nat.add_right_comm, unmoved_add (by omega)]
  have hlines' : speaking ⟨start, withLine w line v⟩ holes' = speaking ⟨start, w⟩ holes ++
      (speaking ⟨q + 1, v⟩ holes).map (·.shift line.length) := by
    rw [withLine, speaking_append, hq, speaking_append, hsilent, List.nil_append, hfront,
      Nat.add_right_comm, hbehind]
  have hlines : speaking ⟨start, withLine w [] v⟩ holes = speaking ⟨start, w⟩ holes ++
      speaking ⟨q + 1, v⟩ holes := by
    rw [withLine, speaking_append, hq, speaking_append, hempty, List.nil_append]
    rfl
  rw [← addLines_speaking, ← addLines_speaking, hlines, hlines']
  refine Noted.foldlM_move (List.rel_append (List.forall₂_same.mpr fun l hl t => ?_) ?_) t
  · have hl := within_of_mem_linesExcluding (List.mem_of_mem_filter hl)
    exact ((addLine_within hl t).move_eq (by simp only [Fragment.stop]; omega)).symm
  · rw [List.forall₂_map_right_iff, List.forall₂_same]
    intro l hl t
    have hl := within_of_mem_linesExcluding (List.mem_of_mem_filter hl)
    rw [addLine_shift, (addLine_within hl t).move_eq_shift (Nat.le_succ q)]

end

/-! ## Templates -/

namespace Block.Around

variable {b b' : Block} (h : b.Around q line b')
include h

/-- The options of a block are noted at its keyword, which is in front of the line. -/
theorem trailerOptions_eq : trailerOptions b' = (trailerOptions b).move q line.length := by
  have hwithin := readOptions_within (Nat.zero_le b.start) (Nat.le_refl _)
    (optionGroups b.trailer.chars)
  rw [trailerOptions, h.start_eq, h.trailer_eq, trailerOptions, hwithin.move_eq h.start]
  rfl

theorem note_eq (issue : Issue) :
    Noted.note b'.start issue = (Noted.note b.start issue).move q line.length := by
  rw [h.start_eq, (Noted.within_note (Nat.zero_le _) (Nat.le_refl _)).move_eq h.start]

end Block.Around

theorem forall₂_mem {α : Type} {r : α → α → Prop} {l l' : List α} (h : List.Forall₂ r l l') :
    List.Forall₂ (fun a a' => a ∈ l ∧ a' ∈ l' ∧ r a a') l l' := by
  induction h with
  | nil => exact .nil
  | cons ha _ ih =>
    exact .cons ⟨List.mem_cons_self, List.mem_cons_self, ha⟩ (ih.imp fun _ _ ⟨hm, hm', ha⟩ =>
      ⟨List.mem_cons_of_mem _ hm, List.mem_cons_of_mem _ hm', ha⟩)

/-- A scan of a fragment around the line. -/
theorem scanBlocks_inserted (hline : braceDepth? 0 line = some 0) {f f' : Fragment}
    (hf : f.Inserted q line f') (hshelter : ∀ w v, f.chars = withLine w [] v →
      f.start + w.length + 1 = q → Sheltered k line v q w (scanBlocks k f).blocks)
    (hempty : GroupsStay q (scanBlocks k f).blocks)
    (hstay : GroupsStay q (scanBlocks k f').blocks) :
    Scan.Inserted q line (scanBlocks k f) (scanBlocks k f') := by
  obtain ⟨hq⟩ := hf
  exact scanFrom_withLine hline k q _ 0 _ hq (hshelter _ _ rfl hq) hempty hstay

/-- The first `items` block stays the first, and every other one is noted where it comes to
stand. -/
theorem firstItems_inserted {blocks blocks' : List Block}
    (h : List.Forall₂ (fun b b' => b'.start = moved q line.length b.start ∧
      itemTemplate? b' = (itemTemplate? b).move q line.length) blocks blocks')
    (found : Option Template) :
    firstItems found blocks' = (firstItems found blocks).move q line.length := by
  induction h generalizing found with
  | nil => rfl
  | cons hb _ ih =>
    cases found with
    | none =>
      rw [firstItems, firstItems, hb.2, Noted.move_bind]
      exact congrArg (_ >>= ·) (funext ih)
    | some t =>
      rw [firstItems, firstItems, hb.1, Noted.move_bind]
      exact congrArg (_ >>= ·) (funext fun _ => ih _)

/-- The blocks that compiling the body of a section reads. -/
def itemBlocks (body : Fragment) : List Block :=
  (scanBlocks .items body).blocks ++
    (scanBlocks .items body).blocks.flatMap fun b => (scanBlocks .items b.body).blocks

theorem GroupsStay.items {body : Fragment} (h : GroupsStay q (itemBlocks body)) :
    GroupsStay q (scanBlocks .items body).blocks := h.mono (List.subset_append_left ..)

theorem GroupsStay.nested {body : Fragment} (h : GroupsStay q (itemBlocks body)) {b : Block}
    (hb : b ∈ (scanBlocks .items body).blocks) : GroupsStay q (scanBlocks .items b.body).blocks :=
  h.mono fun _ hi => List.mem_append_right _ (List.mem_flatMap.mpr ⟨b, hb, hi⟩)

section

variable (hline : HashLine line)
include hline

theorem scanBlocks_items_inserted {f f' : Fragment} (hf : f.Inserted q line f')
    (hempty : GroupsStay q (scanBlocks .items f).blocks)
    (hstay : GroupsStay q (scanBlocks .items f').blocks) :
    Scan.Inserted q line (scanBlocks .items f) (scanBlocks .items f') :=
  scanBlocks_inserted hline.braces_closed hf (fun _ _ _ _ => .silent hline.silent) hempty hstay

/-- An `items` block around the line makes the same template. -/
theorem itemTemplate?_inserted {b b' : Block} (h : b.Around q line b')
    (hempty : GroupsStay q (scanBlocks .items b.body).blocks)
    (hstay : GroupsStay q (scanBlocks .items b'.body).blocks) :
    itemTemplate? b' = (itemTemplate? b).move q line.length := by
  have hscan := scanBlocks_items_inserted hline h.body hempty hstay
  unfold itemTemplate?
  rw [h.header_eq]
  split
  · rw [h.note_eq, Noted.move_bind]
    rfl
  · dsimp only
    rw [h.trailerOptions_eq, Noted.move_bind]
    refine congrArg (_ >>= ·) (funext fun o => ?_)
    rw [Noted.move_bind, ← ofNotes_inserted .nestedItems hscan.blocks, Noted.move_bind,
      ← addLines_inserted hline h.body hscan.holes]
    rfl

/-- The body of a section around the line adds the same fields and items. A block of items may stand
in front of the line, around it or behind it. -/
theorem sectionBody_inserted {f f' : Fragment} (hf : f.Inserted q line f')
    (hempty : GroupsStay q (itemBlocks f)) (hstay : GroupsStay q (itemBlocks f')) (t : Template) :
    sectionBody t f' = (sectionBody t f).move q line.length := by
  have hscan := scanBlocks_items_inserted hline hf hempty.items hstay.items
  have hitems := firstItems_inserted ((forall₂_mem hscan.blocks).imp fun b b' ⟨hb, hb', h⟩ =>
    ⟨h.start_eq, h.move_eq itemTemplate?_within itemTemplate?_shift fun haround =>
      itemTemplate?_inserted hline haround (hempty.nested hb) (hstay.nested hb')⟩) none
  have hmalformed : List.Forall₂ (fun m m' => ∀ p,
      (Malformed.hole f' m').covers p = (Malformed.hole f m).covers (unmoved q line.length p))
        (scanBlocks .items f).malformed (scanBlocks .items f').malformed :=
    (forall₂_mem hscan.malformed).imp fun _ _ ⟨hm, _, h⟩ p =>
      h.covers_hole hf (malformed_within hm).1 p
  have hholes := hscan.holes.append (holesInserted_map hmalformed)
  unfold sectionBody
  dsimp only
  rw [reportMalformed_inserted .items hscan.malformed, Noted.move_bind, hitems, Noted.move_bind]
  refine congrArg (_ >>= ·) (funext fun _ => congrArg (_ >>= ·) (funext fun items => ?_))
  rw [addLines_inserted hline hf hholes, Noted.move_bind]
  rfl

end

theorem section?_inserted {b b' : Block} (h : b.Around q line b') (hbody : ∀ t,
    sectionBody t b'.body = (sectionBody t b.body).move q line.length) : section? b' =
      (section? b).move q line.length := by
  unfold section?
  rw [h.header_eq]
  dsimp only
  split
  · rw [h.note_eq, Noted.move_bind]
    rfl
  · split
    · rw [h.note_eq, Noted.move_bind]
      rfl
    · rw [h.trailerOptions_eq, Noted.move_bind]
      refine congrArg (_ >>= ·) (funext fun o => ?_)
      rw [hbody, Noted.move_bind]
      rfl

/-- The rules of a fragment, where they are so for the section around the line. -/
theorem sections_inserted {f f' : Fragment}
    (hscan : Scan.Inserted q line (scanBlocks .section f) (scanBlocks .section f'))
    (haround : ∀ b ∈ (scanBlocks .section f).blocks, ∀ b' ∈ (scanBlocks .section f').blocks,
      b.Around q line b' → section? b' = (section? b).move q line.length) :
    sections f' = (sections f).move q line.length := by
  unfold sections
  dsimp only
  rw [reportMalformed_inserted .section hscan.malformed, Noted.move_bind]
  refine congrArg (_ >>= ·) (funext fun _ => Noted.collect_move ?_)
  exact (forall₂_mem hscan.blocks).imp fun b b' ⟨hb, hb', h⟩ =>
    h.move_eq section?_within section?_shift (haround b hb b' hb')

/-- A path block around the line makes the same scope where its sections are the same. -/
theorem scope?_inserted {b b' : Block} (h : b.Around q line b')
    (hsections : sections b'.body = (sections b.body).move q line.length)
    (scopes : List PathScope) :
    scope? scopes b' = (scope? scopes b).move q line.length := by
  unfold scope?
  rw [h.header_eq]
  dsimp only
  split
  · rw [h.note_eq, Noted.move_bind]
    rfl
  · split
    · rw [h.note_eq, Noted.move_bind]
      rfl
    · rw [hsections, Noted.move_bind]
      refine congrArg (_ >>= ·) (funext fun rules => ?_)
      split
      · rfl
      · split
        · rfl
        · rw [h.note_eq, Noted.move_bind]
          rfl

theorem addScope_inserted {b b' : Block} (h : b.Around q line b')
    (hsections : sections b'.body = (sections b.body).move q line.length)
    (scopes : List PathScope) :
    addScope scopes b' = (addScope scopes b).move q line.length := by
  rw [addScope, addScope, scope?_inserted h hsections, Noted.move_bind]
  rfl

end PageRules.RuleText
