import Mathlib
import PageRules.Proofs.RuleText.Located
import PageRules.Proofs.RuleText.Octets

/-!
# Blocks in blocks

The compiler scans a text, the bodies of the blocks that it finds there, and the bodies of the
blocks in those (`ScannedRange`). In each of these ranges the blocks of a keyword stand apart and in
order, with all their parts, and every piece that is cut out of the bytes of the text is the
encoding of a piece of the text (`scannedRange_cutsSafely`).
-/

namespace PageRules.RuleText

open Text (octets byteOffset)

variable {k : Keyword} {pos depth : Nat} {bounded : Bool} {scan : Scan} {s t text : Text}
  {f g : Fragment} {b : Block} {m : Malformed}

/-- A range that a text is scanned in: the whole text, or the body of a block found in such a
range. -/
inductive ScannedRange (t : Text) : Fragment → Prop
  | whole : ScannedRange t ⟨0, t⟩
  | body {k : Keyword} {f : Fragment} {b : Block} (hf : ScannedRange t f)
      (hb : b ∈ (scanBlocks k f).blocks) : ScannedRange t b.body

theorem ScannedRange.standsIn (hf : ScannedRange t f) : f.StandsIn t := by
  induction hf with
  | whole => exact .whole t
  | body _ hb ih => exact ih.body hb

theorem Fragment.StandsIn.isPrefix (hf : f.StandsIn t) : f.chars <+: t.drop f.start := by
  obtain ⟨front, after, rfl, hstart⟩ := hf
  refine ⟨after, ?_⟩
  rw [hstart, List.drop_left]

/-! ## Order -/

/-- The parts of a block follow one another inside the range. The header stands on one line and
holds no brace, and the braces of the body are matched. -/
structure Block.Nests (f : Fragment) (b : Block) : Prop where
  start : f.start ≤ b.start
  header : b.start < b.header.start
  header_stop : b.header.start ≤ b.header.stop
  body : b.header.stop < b.body.start
  body_stop : b.body.start ≤ b.body.stop
  trailer : b.body.stop < b.trailer.start
  trailer_stop : b.trailer.start ≤ b.stop
  stop : b.stop ≤ f.stop
  is_header : IsHeader b.header.chars
  balanced : braceDepth? 0 b.body.chars = some 0

theorem Block.nests_of_mem (hb : b ∈ (scanBlocks k f).blocks) : b.Nests f := by
  have hwithin := Block.within_of_mem hb
  obtain ⟨front, word, header, body, trailer, after, hblock, -, rfl⟩ :=
    (scans_scanFrom k f.start 0 true f.chars).standsIn hb
  have hword := hblock.is_word.length_pos
  refine ⟨hwithin.start, ?_, Nat.le_add_right .., ?_, Nat.le_add_right .., ?_, Nat.le_add_right ..,
    hwithin.stop, hblock.is_header, hblock.balanced 0⟩
  all_goals
    simp only [opened, Fragment.stop]
    omega

/-- What a scan reports stands in order. -/
theorem Scans.malformed_pairwise (h : Scans k pos depth bounded t scan) :
    scan.malformed.Pairwise fun m n => m.start < n.start := by
  induction h with
  | nil => exact .nil
  | openBrace _ ih => exact ih
  | closeBrace _ ih => exact ih
  | char _ _ _ _ ih => exact ih
  | noBrace hw _ h ih =>
    refine .cons (fun n hn => ?_) ih
    exact (Nat.lt_add_of_pos_right hw.length_pos).trans_le (h.malformed_within hn).1
  | unmatchedBrace hw _ _ h ih =>
    refine .cons (fun n hn => Nat.lt_of_lt_of_le ?_ (h.malformed_within hn).1) ih
    simp only [List.length_append]
    have := hw.length_pos
    omega
  | block _ _ ih => exact ih

/-! ## Reports in bodies -/

/-- Where all braces are closed, nothing but a missing brace is reported. -/
theorem Scans.noBrace_of_braceDepth {d : Nat} (h : Scans k pos depth bounded t scan)
    (hd : braceDepth? d t = some 0) (hm : m ∈ scan.malformed) : m.defect = .noBrace := by
  induction h generalizing d with
  | nil => cases hm
  | openBrace _ ih => exact ih hd hm
  | closeBrace _ ih =>
    cases d with
    | zero => cases hd
    | succ d => exact ih hd hm
  | char ho hc _ _ ih =>
    rw [braceDepth?_cons ho hc] at hd
    exact ih hd hm
  | noBrace _ _ _ ih =>
    obtain ⟨e, -, hafter⟩ := braceDepth?_append_eq_some_iff.mp hd
    rcases List.mem_cons.mp hm with rfl | hm
    · rfl
    · exact ih hafter hm
  | unmatchedBrace hw hh hb _ _ => exact absurd hb (body?_ne_none_of_braceDepth hw hh hd)
  | block _ _ ih =>
    obtain ⟨e, -, hafter⟩ := braceDepth?_append_eq_some_iff.mp hd
    exact ih hafter hm

/-! ## Holes of lines -/

/-- The hole and the block have a position in common. -/
def Hole.Overlaps (h : Hole) (b : Block) : Prop := h.start < b.stop ∧ b.start < h.stop

instance (h : Hole) (b : Block) : Decidable (h.Overlaps b) :=
  inferInstanceAs (Decidable (h.start < b.stop ∧ b.start < h.stop))

theorem Malformed.hole_append (hlow : pos + s.length ≤ m.start) (t : Text) :
    m.hole ⟨pos, s ++ t⟩ = m.hole ⟨pos + s.length, t⟩ := by
  obtain ⟨n, hn⟩ := Nat.exists_eq_add_of_le hlow
  have hfront : m.start - pos = s.length + n := by omega
  have hback : m.start - (pos + s.length) = n := by omega
  rw [hole, hole, hfront, hback, List.drop_length_add_append]

/-- A header without a brace leaves none on its line where no brace closes. -/
theorem no_open_of_header? (hh : header? t = none) (hd : braceDepth? 0 t = some depth) :
    '\x7b' ∉ t.takeWhile (· != '\n') := by
  induction t with
  | nil => simp
  | cons c t ih =>
    rw [header?] at hh
    by_cases ho : c = '\x7b'
    · simp [ho] at hh
    by_cases hc : c = '\x7d'
    · subst hc
      cases hd
    by_cases hn : c = '\n'
    · simp [hn]
    · rw [if_neg (by simpa using ho), if_neg (by simp [hc, hn]), Option.map_eq_none_iff] at hh
      rw [braceDepth?_cons ho hc] at hd
      rw [List.takeWhile_cons_of_pos (by simpa using hn), List.mem_cons, not_or]
      exact ⟨Ne.symm ho, ih hh hd⟩

theorem braceDepth?_of_append_no_open {e : Nat} (ho : '\x7b' ∉ s)
    (hd : braceDepth? 0 (s ++ t) = some e) : braceDepth? 0 t = some e := by
  induction s with
  | nil => exact hd
  | cons c s ih =>
    have hopen : c ≠ '\x7b' := (List.ne_of_not_mem_cons ho).symm
    by_cases hc : c = '\x7d'
    · subst hc
      cases hd
    · rw [List.cons_append, braceDepth?_cons hopen hc] at hd
      exact ih (List.not_mem_of_not_mem_cons ho) hd

theorem takeWhile_append_line (hs : '\n' ∉ s) (t : Text) :
    (s ++ t).takeWhile (· != '\n') = s ++ t.takeWhile (· != '\n') :=
  List.takeWhile_append_of_pos fun _ hc => bne_iff_ne.mpr (ne_of_mem_of_not_mem hc hs)

/-- A block has its brace on the line of its keyword. -/
theorem Block.StandsIn.le_start_of_no_open (h : b.StandsIn k pos t)
    (ho : '\x7b' ∉ t.takeWhile (· != '\n')) : pos + (t.takeWhile (· != '\n')).length ≤ b.start := by
  obtain ⟨front, word, header, body, trailer, after, hblock, rfl, rfl⟩ := h
  refine Nat.add_le_add_left (Nat.le_of_not_lt fun hlt => ho ?_) pos
  have hfront : '\n' ∉ front := by
    intro hm
    have hline := List.prefix_of_prefix_length_le (List.prefix_append front _)
      (List.takeWhile_prefix _) hlt.le
    have hne := List.mem_takeWhile_imp (p := (· != '\n')) (hline.subset hm)
    simp at hne
  rw [pieces, List.append_assoc, List.append_assoc, takeWhile_append_line hfront,
    takeWhile_append_line hblock.is_word.no_break, takeWhile_append_line hblock.is_header.no_break,
    List.cons_append, List.takeWhile_cons_of_pos (by decide)]
  simp

/-- The line behind a keyword without its brace holds no block, where all braces are closed. -/
theorem not_overlaps_of_noBrace {word : Text} (hw : k.IsWord word) (hh : header? t = none)
    (hd : braceDepth? 0 t = some 0) (hb : b.StandsIn k (pos + word.length) t) :
    ¬ (Malformed.hole ⟨pos, word ++ t⟩ ⟨pos, .noBrace⟩).Overlaps b := by
  intro hoverlaps
  have hstart := hb.le_start_of_no_open (no_open_of_header? hh hd)
  have hlt := hoverlaps.2
  rw [Malformed.hole] at hlt
  simp only [Nat.sub_self, List.drop_zero, takeWhile_append_line hw.no_break,
    List.length_append] at hlt
  omega

/-- The hole of a malformed block overlaps another block only behind option groups that hold a
brace: the scan leaves that brace out of its count. -/
theorem Scans.exists_of_overlaps (h : Scans k pos depth bounded t scan)
    (hd : braceDepth? depth t = some 0) (hb : b ∈ scan.blocks) (hm : m ∈ scan.malformed)
    (hoverlaps : (m.hole ⟨pos, t⟩).Overlaps b) :
    ∃ a ∈ scan.blocks, a.stop ≤ m.start ∧ '\x7b' ∈ a.trailer.chars := by
  -- Up to such groups the scan counts the braces as they are.
  induction h with
  | nil => cases hb
  | @openBrace pos depth bounded t scan h ih =>
    rw [← List.singleton_append, m.hole_append (h.malformed_within hm).1] at hoverlaps
    exact ih hd hb hm hoverlaps
  | @closeBrace pos depth bounded t scan h ih =>
    rw [← List.singleton_append, m.hole_append (h.malformed_within hm).1] at hoverlaps
    cases depth with
    | zero => cases hd
    | succ depth => exact ih hd hb hm hoverlaps
  | @char pos depth bounded c t scan ho hc hk h ih =>
    rw [← List.singleton_append, m.hole_append (h.malformed_within hm).1] at hoverlaps
    rw [braceDepth?_cons ho hc] at hd
    exact ih hd hb hm hoverlaps
  | noBrace hw hh h ih =>
    rw [braceDepth?_append_of_not_mem hw.no_brace.1 hw.no_brace.2] at hd
    rcases List.mem_cons.mp hm with rfl | hm
    · exact absurd hoverlaps (not_overlaps_of_noBrace hw hh hd (h.standsIn hb))
    · rw [m.hole_append (h.malformed_within hm).1] at hoverlaps
      exact ih hd hb hm hoverlaps
  | unmatchedBrace hw hh hbody _ _ => exact absurd hbody (body?_ne_none_of_braceDepth hw hh hd)
  | @block pos word header body trailer after scan hblock h ih =>
    have hbehind := (h.malformed_within hm).1
    have hstop := Block.stop_opened pos word header body trailer
    by_cases hopen : '\x7b' ∈ trailer
    · exact ⟨_, List.mem_cons_self, hstop.trans_le hbehind, hopen⟩
    have hafter : braceDepth? 0 after = some 0 := by
      rw [braceDepth?_pieces hblock.is_word hblock.is_header (hblock.balanced 0)] at hd
      exact braceDepth?_of_append_no_open hopen hd
    rcases List.mem_cons.mp hb with rfl | hb
    · have hlt := hoverlaps.1
      rw [hstop] at hlt
      exact absurd hlt (Nat.not_lt.mpr hbehind)
    · rw [m.hole_append hbehind] at hoverlaps
      obtain ⟨a, ha, hbefore, hbrace⟩ := ih hafter hb hm hoverlaps
      exact ⟨a, List.mem_cons_of_mem _ ha, hbefore, hbrace⟩

/-! ## Boundaries of characters -/

/-- A character of the text begins at the byte offset, or the text ends there. -/
def IsBoundary (text : Text) (n : Nat) : Prop :=
  ∃ front after, text = front ++ after ∧ n = (octets front).length

/-- The bytes are those of a piece of the text, and begin where the piece does. -/
def Fragment.CutFrom (text : Text) (f : Fragment) : Prop :=
  ∃ front piece after, text = front ++ (piece ++ after) ∧ f.start = (octets front).length ∧
    f.chars = octets piece

theorem isBoundary_byteOffset (text : Text) (p : Nat) : IsBoundary text (byteOffset text p) :=
  ⟨text.take p, text.drop p, (List.take_append_drop p text).symm, rfl⟩

theorem Fragment.StandsIn.cutFrom (hf : f.StandsIn text) : (f.inBytes text).CutFrom text := by
  obtain ⟨front, after, htext, hstart⟩ := hf
  refine ⟨front, f.chars, after, htext, ?_, rfl⟩
  rw [start_inBytes, htext, hstart, Text.byteOffset_append]

theorem ScannedRange.exists_inBytes (hf : ScannedRange (octets text) f) :
    ∃ g, ScannedRange text g ∧ f = g.inBytes text := by
  induction hf with
  | whole => exact ⟨⟨0, text⟩, .whole, rfl⟩
  | @body k f b _ hb ih =>
    obtain ⟨g, hg, rfl⟩ := ih
    rw [scanBlocks_octets hg.standsIn.isPrefix] at hb
    obtain ⟨a, ha, rfl⟩ := List.mem_map.mp hb
    exact ⟨a.body, hg.body ha, rfl⟩

/-- The holes that the lines of a range may be read without: its blocks, and the lines of what is
reported there. -/
def Scan.holes (f : Fragment) (scan : Scan) : List Hole :=
  scan.blocks.map Block.hole ++ scan.malformed.map (Malformed.hole f)

theorem holes_octets (hf : f.StandsIn text) :
    (scanBlocks k (f.inBytes text)).holes (f.inBytes text) =
      ((scanBlocks k f).holes f).map (·.inBytes text) := by
  rw [scanBlocks_octets hf.isPrefix]
  change ((scanBlocks k f).blocks.map _).map _ ++ ((scanBlocks k f).malformed.map _).map _ =
    ((scanBlocks k f).blocks.map _ ++ (scanBlocks k f).malformed.map _).map _
  rw [List.map_append, List.map_map, List.map_map, List.map_map, List.map_map]
  refine congrArg₂ _ (List.map_congr_left fun b hb => ?_) (List.map_congr_left fun m hm => ?_)
  · exact Block.hole_inBytes (hf.parts hb).2.2.isPrefix
  · have hwithin := (scans_scanFrom k f.start 0 true f.chars).malformed_within hm
    exact Malformed.hole_inBytes hf.isPrefix hwithin.1 hwithin.2

/-- The blocks and reports of a range of bytes are in order, and whatever is cut out of the bytes is
cut at boundaries of characters. -/
structure CutsSafely (text : Text) (f : Fragment) (scan : Scan) : Prop where
  range : f.CutFrom text
  block_starts : (scan.blocks.map (·.start)).Pairwise (· < ·)
  malformed_starts : (scan.malformed.map (·.start)).Pairwise (· < ·)
  apart : scan.blocks.Pairwise fun a b => a.stop ≤ b.start
  nests : ∀ b ∈ scan.blocks, b.Nests f
  blocks : ∀ b ∈ scan.blocks, IsBoundary text b.start ∧
    b.header.CutFrom text ∧ b.body.CutFrom text ∧ b.trailer.CutFrom text
  malformed : ∀ m ∈ scan.malformed, IsBoundary text m.start
  holes : ∀ h ∈ scan.holes f, IsBoundary text h.start ∧ IsBoundary text h.stop
  lines : ∀ holes ⊆ scan.holes f, ∀ line ∈ linesExcluding f holes, line.CutFrom text

theorem cutsSafely_inBytes (hg : g.StandsIn text) (k : Keyword) :
    CutsSafely text (g.inBytes text) (scanBlocks k (g.inBytes text)) where
  range := hg.cutFrom
  block_starts := starts_pairwise _
  malformed_starts := List.pairwise_map.mpr (scans_scanFrom ..).malformed_pairwise
  apart := (scans_scanFrom ..).pairwise
  nests b hb := Block.nests_of_mem hb
  blocks b hb := by
    rw [scanBlocks_octets hg.isPrefix] at hb
    obtain ⟨a, ha, rfl⟩ := List.mem_map.mp hb
    obtain ⟨hheader, hbody, htrailer⟩ := hg.parts ha
    exact ⟨isBoundary_byteOffset .., hheader.cutFrom, hbody.cutFrom, htrailer.cutFrom⟩
  malformed m hm := by
    rw [scanBlocks_octets hg.isPrefix] at hm
    obtain ⟨n, -, rfl⟩ := List.mem_map.mp hm
    exact isBoundary_byteOffset ..
  holes h hh := by
    rw [holes_octets hg] at hh
    obtain ⟨h', -, rfl⟩ := List.mem_map.mp hh
    exact ⟨isBoundary_byteOffset .., isBoundary_byteOffset ..⟩
  lines holes hholes line hline := by
    rw [holes_octets hg] at hholes
    obtain ⟨holes', rfl⟩ : holes ∈ Set.range (List.map (Hole.inBytes text)) := by
      rw [Set.range_list_map]
      intro h hh
      obtain ⟨h', -, rfl⟩ := List.mem_map.mp (hholes hh)
      exact ⟨h', rfl⟩
    change line ∈ linesExcluding ⟨byteOffset text g.start, octets g.chars⟩ _ at hline
    rw [linesExcluding_octets holes' hg.isPrefix] at hline
    obtain ⟨l, hl, rfl⟩ := List.mem_map.mp hline
    exact (hg.line (f := ⟨g.start, g.chars⟩) hl).cutFrom

/-- The offsets of every scan are safe, and its blocks nest. In the body of a block no brace is
reported that never closes, and the line of what is reported there goes into another block only
behind option groups that hold an opening brace. -/
theorem scannedRange_cutsSafely (text : Text) {f : Fragment} (hf : ScannedRange (octets text) f)
    (k : Keyword) :
    CutsSafely text f (scanBlocks k f) ∧
      ∀ b ∈ (scanBlocks k f).blocks, ∀ k' : Keyword, ∀ m ∈ (scanBlocks k' b.body).malformed,
        m.defect = .noBrace ∧
          ∀ i ∈ (scanBlocks k' b.body).blocks, (m.hole b.body).Overlaps i →
            ∃ j ∈ (scanBlocks k' b.body).blocks,
              j.stop ≤ m.start ∧ '\x7b' ∈ j.trailer.chars := by
  constructor
  · obtain ⟨g, hg, rfl⟩ := hf.exists_inBytes
    exact cutsSafely_inBytes hg.standsIn k
  · intro b hb k' m hm
    have hscans := scans_scanFrom k' b.body.start 0 true b.body.chars
    have hbody := braceDepth?_body hb
    exact ⟨hscans.noBrace_of_braceDepth hbody hm,
      fun i hi hoverlaps => hscans.exists_of_overlaps hbody hi hm hoverlaps⟩

/-- A section with characters of several bytes and a brace in the option groups of its items. -/
def braceGroupText : Text :=
  ("section: é .é \x7b items: .è \x7b \x7d [\x7b] items: x \x7d " ++
    "items: .b \x7b \x7d text: p \x7d").toList

/-- In its body the line of a malformed block goes into the block behind it. -/
theorem scannedRange_cutsSafely_braceGroupText :
    ∃ b ∈ (scanBlocks .section ⟨0, octets braceGroupText⟩).blocks,
      ScannedRange (octets braceGroupText) b.body ∧
      CutsSafely braceGroupText b.body (scanBlocks .items b.body) ∧
      ∃ m ∈ (scanBlocks .items b.body).malformed, m.defect = .noBrace ∧
        ∃ i ∈ (scanBlocks .items b.body).blocks, (m.hole b.body).Overlaps i ∧
          ∃ j ∈ (scanBlocks .items b.body).blocks, j.stop ≤ m.start ∧ '\x7b' ∈ j.trailer.chars := by
  have hwhole : ScannedRange (octets braceGroupText) ⟨0, octets braceGroupText⟩ := .whole
  have hoverlaps : ∃ b ∈ (scanBlocks .section ⟨0, octets braceGroupText⟩).blocks,
      ∃ m ∈ (scanBlocks .items b.body).malformed, ∃ i ∈ (scanBlocks .items b.body).blocks,
        (m.hole b.body).Overlaps i := by decide +kernel
  obtain ⟨b, hb, m, hm, i, hi, hmi⟩ := hoverlaps
  have hbody : ScannedRange (octets braceGroupText) b.body := hwhole.body hb
  have hreport := (scannedRange_cutsSafely braceGroupText hwhole .section).2 b hb .items m hm
  exact ⟨b, hb, hbody, (scannedRange_cutsSafely braceGroupText hbody .items).1, m, hm, hreport.1,
    i, hi, hmi, hreport.2 i hi hmi⟩

end PageRules.RuleText
