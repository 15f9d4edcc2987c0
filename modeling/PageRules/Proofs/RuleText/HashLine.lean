import Mathlib
import PageRules.Proofs.RuleText.Compose
import PageRules.Proofs.RuleText.Moved
import PageRules.Proofs.RuleText.Verbatim

/-!
# Lines that begin with `#`

A line that begins with `#` is skipped where the lines of a body are read, but comments, braces,
keywords and option groups are read in it before. Where none of these reads anything in it, a text
compiles to what it compiles to with the line empty (`compile_hashLine`).
-/

namespace PageRules.RuleText

variable {k : Keyword} {s t v w line c : Text} {q : Nat}

/-! ## Scopes -/

/-- Behind the opening brace of a block around the line, all braces up to the line are closed or
around it. -/
theorem Block.StandsIn.exists_open {pos : Nat} {b : Block}
    (h : b.StandsIn k pos (withLine w [] v)) (hq : pos + w.length + 1 = q)
    (hcovers : b.body.Covers q) :
    ∃ a m e, w = a ++ '\x7b' :: m ∧ braceDepth? 0 m = some e ∧
      (body? 0 (withLine m [] v)).isSome := by
  obtain ⟨front, word, header, body, trailer, after, hblock, htext, rfl⟩ := h
  have hstart := hcovers.1
  have hstop := hcovers.2
  simp only [opened, Fragment.stop] at hstart hstop
  have htext' : withLine w [] v =
      front ++ (word ++ header) ++ '\x7b' :: (body ++ '\x7d' :: (trailer ++ after)) := by
    rw [htext, pieces]
    simp
  have hprefix : front ++ (word ++ header) <+: w := by
    refine List.prefix_of_prefix_length_le ⟨_, htext'.symm⟩ ⟨_, rfl⟩ ?_
    simp only [List.length_append]
    omega
  obtain ⟨r, rfl⟩ := hprefix
  rw [← withLine_append] at htext'
  have hrest := List.append_cancel_left htext'
  cases r with
  | nil => cases hrest
  | cons d m =>
    obtain ⟨rfl, hm⟩ := List.cons.inj hrest
    have hbody : m <+: body := by
      refine List.prefix_of_prefix_length_le ⟨_, rfl⟩ ⟨_, hm.symm⟩ ?_
      simp only [List.length_append, List.length_cons] at hq
      omega
    obtain ⟨r, rfl⟩ := hbody
    have hdepth := hblock.balanced 0
    obtain ⟨e, he, -⟩ := braceDepth?_append_eq_some_iff.mp hdepth
    refine ⟨_, m, e, rfl, he, ?_⟩
    have hwhole : withLine m [] v = m ++ r ++ '\x7d' :: (trailer ++ after) := hm
    rw [hwhole, body?_of_braceDepth_eq (hblock.balanced 0)]
    rfl

/-- The blocks that compiling sections reads. -/
def sectionBlocks (f : Fragment) : List Block :=
  (scanBlocks .section f).blocks ++
    (scanBlocks .section f).blocks.flatMap fun b => itemBlocks b.body

/-- The blocks that compiling a text reads. -/
def blocksRead (raw : Text) : List Block :=
  if pathBlocks raw = [] then sectionBlocks (normalFragment raw)
  else pathBlocks raw ++ (scanBlocks .section (normalFragment raw)).blocks ++
    (pathBlocks raw).flatMap fun p => sectionBlocks p.body

namespace GroupsStay

variable {raw : Text} {f : Fragment} {b p : Block}

theorem sections (h : GroupsStay q (sectionBlocks f)) :
    GroupsStay q (scanBlocks .section f).blocks := h.mono (List.subset_append_left ..)

theorem body (h : GroupsStay q (sectionBlocks f)) (hb : b ∈ (scanBlocks .section f).blocks) :
    GroupsStay q (itemBlocks b.body) :=
  h.mono fun _ hi => List.mem_append_right _ (List.mem_flatMap.mpr ⟨b, hb, hi⟩)

theorem of_no_path (h : GroupsStay q (blocksRead raw)) (hp : pathBlocks raw = []) :
    GroupsStay q (sectionBlocks (normalFragment raw)) := by
  rwa [blocksRead, if_pos hp] at h

theorem paths (h : GroupsStay q (blocksRead raw)) : GroupsStay q (pathBlocks raw) := by
  by_cases hp : pathBlocks raw = []
  · rw [hp]
    intro b hb
    cases hb
  · rw [blocksRead, if_neg hp, List.append_assoc] at h
    exact h.mono (List.subset_append_left ..)

theorem stray (h : GroupsStay q (blocksRead raw)) (hp : pathBlocks raw ≠ []) :
    GroupsStay q (scanBlocks .section (normalFragment raw)).blocks := by
  rw [blocksRead, if_neg hp] at h
  exact h.mono fun _ hb => List.mem_append_left _ (List.mem_append_right _ hb)

theorem path (h : GroupsStay q (blocksRead raw)) (hp : p ∈ pathBlocks raw) :
    GroupsStay q (sectionBlocks p.body) := by
  rw [blocksRead, if_neg (List.ne_nil_of_mem hp)] at h
  exact h.mono fun _ hb => List.mem_append_right _ (List.mem_flatMap.mpr ⟨p, hp, hb⟩)

end GroupsStay

/-- At most one block of a scan holds a position. -/
theorem eq_of_covers {f : Fragment} {b b' : Block} (hb : b ∈ (scanBlocks k f).blocks)
    (hb' : b' ∈ (scanBlocks k f).blocks) (h : b.Covers q) (h' : b'.Covers q) : b = b' := by
  have hpair : (scanBlocks k f).blocks.Pairwise fun a b => a.Covers q ∧ b.Covers q → a = b :=
    (scans_scanFrom ..).pairwise.imp fun hab ⟨ha, hb⟩ => by
      have := ha.2
      have := hb.1
      omega
  have hsymm : Std.Symm fun a b : Block => a.Covers q ∧ b.Covers q → a = b :=
    ⟨fun _ _ h hba => (h hba.symm).symm⟩
  exact List.Pairwise.forall_of_forall (fun _ _ _ => rfl) hpair hb hb' ⟨h, h'⟩

theorem Block.Within.covers {low high : Nat} {b : Block} (h : b.Within low high)
    (hq : b.body.Covers q) : b.Covers q :=
  ⟨(Nat.le_of_lt h.body).trans hq.1, hq.2.trans h.trailer⟩

theorem Block.Around.covers {b b' : Block} (h : b.Around q line b') : b.Covers q :=
  ⟨Nat.le_of_lt h.start, h.stop⟩

section

variable {raw raw' : Text} (hline : HashLine line)
  (hf : (normalFragment raw).Inserted q line (normalFragment raw'))
include hline

/-- The sections around the line give the rules that they give with the line empty. -/
theorem sections_inserted_body {f f' : Fragment}
    (hscan : Scan.Inserted q line (scanBlocks .section f) (scanBlocks .section f'))
    (hempty : GroupsStay q (sectionBlocks f)) (hstay : GroupsStay q (sectionBlocks f')) :
    sections f' = (sections f).move q line.length :=
  sections_inserted hscan fun _ hb _ hb' haround => section?_inserted haround
    (sectionBody_inserted hline haround.body (hempty.body hb) (hstay.body hb'))

/-- A section around the line shelters it, so the rules of the fragment are the same. -/
theorem sections_inserted_covered {f f' : Fragment} (hf : f.Inserted q line f') {b : Block}
    (hb : b ∈ (scanBlocks .section f).blocks) (hcovers : b.body.Covers q)
    (hempty : GroupsStay q (sectionBlocks f)) (hstay : GroupsStay q (sectionBlocks f')) :
    sections f' = (sections f).move q line.length :=
  sections_inserted_body hline (scanBlocks_inserted hline.braces_closed hf
    (fun _ _ _ _ => .covered hb ((Block.within_of_mem hb).covers hcovers)) hempty.sections
    hstay.sections) hempty hstay

include hf

theorem scopes_inserted_of_no_path (hp : pathBlocks raw = []) {b : Block}
    (hb : b ∈ (scanBlocks .section (normalFragment raw)).blocks) (hcovers : b.body.Covers q)
    (hempty : GroupsStay q (blocksRead raw)) (hstay : GroupsStay q (blocksRead raw')) :
    scopes (normalFragment raw') = (scopes (normalFragment raw)).move q line.length := by
  have hscan : Scan.Inserted q line (scanBlocks .path (normalFragment raw))
      (scanBlocks .path (normalFragment raw')) := by
    refine scanBlocks_inserted hline.braces_closed hf (fun w v hchars hq => ?_) hempty.paths
      hstay.paths
    have hstands := (scans_scanFrom .section 0 0 true (normalFragment raw).chars).standsIn hb
    rw [hchars] at hstands
    obtain ⟨a, m, e, hw, hm, hclosed⟩ := hstands.exists_open hq hcovers
    refine .braces hw hm hclosed fun p hmem => ?_
    rw [pathBlocks] at hp
    rw [hp] at hmem
    cases hmem
  have hp' : pathBlocks raw' = [] :=
    List.eq_nil_of_length_eq_zero (hscan.blocks.length_eq.symm.trans (congrArg List.length hp))
  have hsections := sections_inserted_covered hline hf hb hcovers (hempty.of_no_path hp)
    (hstay.of_no_path hp')
  have hno : (scanBlocks .path (normalFragment raw)).blocks.isEmpty = true :=
    List.isEmpty_iff.mpr hp
  have hno' : (scanBlocks .path (normalFragment raw')).blocks.isEmpty = true :=
    List.isEmpty_iff.mpr hp'
  unfold scopes
  dsimp only
  rw [if_pos hno, if_pos hno', reportMalformed_inserted .path hscan.malformed, hsections,
    Noted.move_bind]
  refine congrArg (_ >>= ·) (funext fun _ => ?_)
  rw [Noted.move_bind]
  rfl

/-- The line stands in one path block, and in one section of it; the other blocks are in front of it
or behind it. -/
theorem scopes_inserted_of_paths {p b : Block} (hp : p ∈ pathBlocks raw)
    (hb : b ∈ (scanBlocks .section p.body).blocks) (hcovers : b.body.Covers q)
    (hempty : GroupsStay q (blocksRead raw)) (hstay : GroupsStay q (blocksRead raw'))
    (hstray : ∀ b ∈ (scanBlocks .section (normalFragment raw)).blocks, b.stop < q →
      braceDepth? 0 b.trailer.chars = some 0) :
    scopes (normalFragment raw') = (scopes (normalFragment raw)).move q line.length := by
  have hpcovers : p.body.Covers q := by
    have hwithin := Block.within_of_mem hb
    have hq := hwithin.covers hcovers
    exact ⟨hwithin.start.trans hq.1, hq.2.trans_le hwithin.stop⟩
  have hpq := (Block.within_of_mem hp).covers hpcovers
  have hscan := scanBlocks_inserted hline.braces_closed hf (fun _ _ _ _ => .covered hp hpq)
    hempty.paths hstay.paths
  have hne : pathBlocks raw ≠ [] := List.ne_nil_of_mem hp
  have hne' : pathBlocks raw' ≠ [] := by
    rw [← List.length_pos_iff] at hne ⊢
    exact hne.trans_eq hscan.blocks.length_eq
  have hsections : Scan.Inserted q line (scanBlocks .section (normalFragment raw))
      (scanBlocks .section (normalFragment raw')) := by
    refine scanBlocks_inserted hline.braces_closed hf (fun w v hchars hq => ?_)
      (hempty.stray hne) (hstay.stray hne')
    have hstands := (scans_scanFrom .path 0 0 true (normalFragment raw).chars).standsIn hp
    rw [hchars] at hstands
    obtain ⟨a, m, e, hw, hm, hclosed⟩ := hstands.exists_open hq hpcovers
    exact .braces hw hm hclosed hstray
  have hadd : (scanBlocks .path (normalFragment raw')).blocks.foldlM addScope [] =
      ((scanBlocks .path (normalFragment raw)).blocks.foldlM addScope []).move q line.length := by
    refine Noted.foldlM_move ((forall₂_mem hscan.blocks).imp fun x x' ⟨hx, hx', h⟩ scopes => ?_) []
    refine Block.Inserted.move_eq (addScope_within · scopes) (addScope_shift scopes) h
      fun haround => addScope_inserted haround ?_ scopes
    obtain rfl := eq_of_covers hp hx hpq haround.covers
    exact sections_inserted_covered hline haround.body hb hcovers (hempty.path hp) (hstay.path hx')
  have hsome : (scanBlocks .path (normalFragment raw)).blocks.isEmpty = false :=
    List.isEmpty_eq_false_iff.mpr hne
  have hsome' : (scanBlocks .path (normalFragment raw')).blocks.isEmpty = false :=
    List.isEmpty_eq_false_iff.mpr hne'
  unfold scopes
  dsimp only
  rw [hsome, hsome', if_neg Bool.false_ne_true, if_neg Bool.false_ne_true,
    reportMalformed_inserted .path hscan.malformed, ofNotes_inserted .straySection hsections.blocks,
    hadd, Noted.move_bind, Noted.move_bind]

end

/-! ## Normal forms -/

/-- The line breaks as they are written. -/
def lineBreaks : List Text := ["\n".toList, "\r".toList, "&#10;".toList, "&#13;".toList]

/-- An empty line stands between the texts, and no comment is open there. -/
@[mk_iff] structure EmptyLine (s t : Text) : Prop where
  ends : ∃ b ∈ lineBreaks, b <:+ s
  begins : ∃ b ∈ lineBreaks, b <+: t
  /-- The line breaks are not the two characters of one. -/
  two_breaks : '\r' ∈ (decodeBreaks s).getLast? → '\n' ∉ (decodeBreaks t).head?
  comments_closed : (normalize s).unclosed = none

instance (s t : Text) : Decidable (EmptyLine s t) := decidable_of_iff' _ (emptyLine_iff s t)

/-- Blanks, `#` and other characters, on one line. -/
@[mk_iff] structure StartsHash (line : Text) : Prop extends LineFeeds line where
  hash : (Text.trim line).head? = some '#'
  one_line : '\n' ∉ line

instance (line : Text) : Decidable (StartsHash line) := decidable_of_iff' _ (startsHash_iff line)

theorem decodeBreaks_ends (h : ∃ b ∈ lineBreaks, b <:+ s) :
    ∃ u d, (d = '\n' ∨ d = '\r') ∧ decodeBreaks s = u ++ [d] ∧
      ∀ t, decodeBreaks (s ++ t) = decodeBreaks s ++ decodeBreaks t := by
  obtain ⟨b, hb, u, rfl⟩ := h
  have hend {d e : Char} {rest : Text} (he : e ∉ ['#', '1', '0', '3', ';'])
      (hbreak : ∀ t, decodeBreaks (e :: (rest ++ t)) = d :: decodeBreaks t) :
      decodeBreaks (u ++ e :: rest) = decodeBreaks u ++ [d] ∧
        ∀ t, decodeBreaks (u ++ e :: rest ++ t) =
          decodeBreaks (u ++ e :: rest) ++ decodeBreaks t := by
    have hlast := hbreak []
    rw [List.append_nil] at hlast
    have hu : decodeBreaks (u ++ e :: rest) = decodeBreaks u ++ [d] := by
      rw [decodeBreaks_append_of_head he, hlast]
      rfl
    refine ⟨hu, fun t => ?_⟩
    rw [hu, List.append_assoc, List.cons_append, decodeBreaks_append_of_head he, hbreak]
    simp
  simp only [lineBreaks, List.mem_cons, List.not_mem_nil, or_false] at hb
  rcases hb with rfl | rfl | rfl | rfl
  · exact ⟨_, '\n', .inl rfl, hend (by decide) fun _ => rfl⟩
  · exact ⟨_, '\r', .inr rfl, hend (by decide) fun _ => rfl⟩
  · exact ⟨_, '\n', .inl rfl, hend (by decide) fun _ => rfl⟩
  · exact ⟨_, '\r', .inr rfl, hend (by decide) fun _ => rfl⟩

theorem decodeBreaks_begins (h : ∃ b ∈ lineBreaks, b <+: t) :
    (∃ d u, (d = '\n' ∨ d = '\r') ∧ decodeBreaks t = d :: u) ∧
      ∀ s, decodeBreaks (s ++ t) = decodeBreaks s ++ decodeBreaks t := by
  obtain ⟨b, hb, u, rfl⟩ := h
  simp only [lineBreaks, List.mem_cons, List.not_mem_nil, or_false] at hb
  rcases hb with rfl | rfl | rfl | rfl
  · exact ⟨⟨'\n', _, .inl rfl, rfl⟩, decodeBreaks_append_of_head (by decide) (t := _)⟩
  · exact ⟨⟨'\r', _, .inr rfl, rfl⟩, fun s => decodeBreaks_append_of_head (by decide) s _⟩
  · exact ⟨⟨'\n', _, .inl rfl, rfl⟩, fun s => decodeBreaks_append_of_head (by decide) s _⟩
  · exact ⟨⟨'\r', _, .inr rfl, rfl⟩, fun s => decodeBreaks_append_of_head (by decide) s _⟩

theorem unifyBreaks_concat {d : Char} (hd : d = '\n' ∨ d = '\r') (u : Text) :
    ∃ u', unifyBreaks (u ++ [d]) = u' ++ ['\n'] := by
  by_cases hpair : '\r' ∈ u.getLast? ∧ d = '\n'
  · obtain ⟨hr, rfl⟩ := hpair
    obtain ⟨u, rfl⟩ := List.getLast?_eq_some_iff.mp hr
    rw [List.append_assoc, unifyBreaks_append fun _ => by simp]
    exact ⟨_, rfl⟩
  · rw [unifyBreaks_append fun hr hn => hpair ⟨hr, by simpa using hn⟩]
    rcases hd with rfl | rfl <;> exact ⟨_, rfl⟩

theorem unifyBreaks_break {d : Char} (hd : d = '\n' ∨ d = '\r') (u : Text) :
    ∃ u', unifyBreaks (d :: u) = '\n' :: u' := by
  rcases hd with rfl | rfl
  · refine ⟨unifyBreaks u, ?_⟩
    rw [unifyBreaks] <;> simp
  · by_cases hn : '\n' ∈ u.head?
    · obtain ⟨u, rfl⟩ := List.head?_eq_some_iff.mp hn
      exact ⟨_, rfl⟩
    · refine ⟨unifyBreaks u, ?_⟩
      rw [unifyBreaks]
      rintro r rfl
      exact hn rfl

theorem StartsHash.unified_eq (h : StartsHash c) : unified c = c := h.toLineFeeds.unified_eq

/-- The line stands between two line breaks of the text in one form. -/
theorem EmptyLine.exists_unified (h : EmptyLine s t) (hc : StartsHash c) :
    ∃ u v, unified s = u ++ ['\n'] ∧ unified (s ++ t) = withLine u [] v ∧
      unified (s ++ (c ++ t)) = withLine u c v := by
  obtain ⟨a, d, hd, hs, hsappend⟩ := decodeBreaks_ends h.ends
  obtain ⟨⟨e, b, he, ht⟩, htappend⟩ := decodeBreaks_begins h.begins
  obtain ⟨u, hu⟩ := unifyBreaks_concat hd a
  obtain ⟨v, hv⟩ := unifyBreaks_break he b
  have hself : decodeBreaks c = c :=
    decodeBreaks_eq_self_of_not_infix hc.no_feed_reference hc.no_return_reference
  have hhead : '\n' ∉ (decodeBreaks (c ++ t)).head? := by
    rw [htappend, hself]
    obtain ⟨d, c', rfl⟩ : ∃ d c', c = d :: c' := by
      cases c with
      | nil => cases hc.hash
      | cons d c' => exact ⟨d, c', rfl⟩
    simpa using (List.ne_of_not_mem_cons hc.one_line).symm
  refine ⟨u, v, by rw [unified, hs, hu], ?_, ?_⟩
  · rw [unified, hsappend, unifyBreaks_append h.two_breaks, hs, hu, ht, hv]
    simp [withLine]
  · rw [unified, hsappend, unifyBreaks_append fun _ => hhead, htappend, hself,
      unifyBreaks_append fun hr => absurd (List.mem_of_getLast? hr) hc.no_return,
      unifyBreaks_eq_self hc.no_return, hs, hu, ht, hv]
    simp [withLine]

/-- The line is blanked by itself. -/
theorem EmptyLine.exists_normalize (h : EmptyLine s t) (hc : StartsHash c)
    (hclosed : (normalize c).unclosed = none) :
    ∃ w v unclosed, (normalize s).text = w ++ ['\n'] ∧
      normalize (s ++ t) = ⟨withLine w [] v, unclosed⟩ ∧
      normalize (s ++ (c ++ t)) = ⟨withLine w (normalize c).text v, unclosed⟩ := by
  obtain ⟨u, v, hs, hempty, hline⟩ := h.exists_unified hc
  have hend := h.comments_closed
  rw [normalize, hs] at hend
  obtain ⟨hu, htext⟩ := Normal.strip_concat (by decide) (by decide) hend
  have hstrip (n : Nat) (v : Text) : Normal.strip ⟨[], n + 1⟩ none (c ++ '\n' :: v) =
      Normal.prepend ((normalize c).text ++ ['\n']) (Normal.strip ⟨[], n + 1 + 1⟩ none v) := by
    have hlater : Normal.strip ⟨[], n + 1⟩ none c = (normalize c).later n := by
      have := Normal.strip_later n {} none c
      rw [normalize, hc.unified_eq, ← this, Place.later, Nat.add_comm]
      rfl
    rw [Normal.strip_append_line (by rw [hlater, Normal.later, hclosed]; rfl), hlater,
      List.count_eq_zero_of_not_mem hc.one_line]
    rfl
  have hblank (n : Nat) (v : Text) : Normal.strip ⟨[], n + 1⟩ none ('\n' :: v) =
      Normal.prepend ['\n'] (Normal.strip ⟨[], n + 1 + 1⟩ none v) :=
    Normal.strip_cons _ (by rintro ⟨⟩)
  refine ⟨(Normal.strip {} none u).text,
    (Normal.strip ⟨[], ({} : Place).number + u.count '\n' + 1 + 1⟩ none v).text,
    (Normal.strip ⟨[], ({} : Place).number + u.count '\n' + 1 + 1⟩ none v).unclosed, ?_, ?_, ?_⟩
  · rw [normalize, hs, htext]
  · rw [normalize, hempty, withLine, Normal.strip_append_line hu, List.nil_append, hblank,
      Normal.prepend_eq, Normal.prepend_eq]
    simp [withLine]
  · rw [normalize, hline, withLine, Normal.strip_append_line hu, hstrip, Normal.prepend_eq,
      Normal.prepend_eq]
    simp [withLine]

/-- Blanking comments keeps the character with which a line begins. -/
theorem StartsHash.hash_normalize (h : StartsHash c) :
    (Text.trim (normalize c).text).head? = some '#' := by
  obtain ⟨blanks, rest, hblank, rfl⟩ : ∃ blanks rest,
      (∀ d ∈ blanks, Text.isBlank d = true) ∧ c = blanks ++ '#' :: rest := by
    have hsplit := List.takeWhile_append_dropWhile (p := Text.isBlank) (l := c)
    have hblank : ∀ d ∈ c.takeWhile Text.isBlank, Text.isBlank d = true := fun d hd =>
      List.mem_takeWhile_imp hd
    cases hdrop : c.dropWhile Text.isBlank with
    | nil =>
      rw [hdrop, List.append_nil] at hsplit
      have hnil := h.hash
      rw [← hsplit, Text.trim_of_blank hblank] at hnil
      cases hnil
    | cons d rest =>
      have hd : Text.isBlank d = false := by
        have := List.head?_dropWhile_not Text.isBlank c
        rw [hdrop] at this
        simpa using this
      rw [hdrop] at hsplit
      have hhash := h.hash
      rw [← hsplit, Text.head?_trim hblank hd] at hhash
      cases hhash
      exact ⟨_, rest, hblank, hsplit.symm⟩
  have hfree : ¬ Text.HasPair '/' '*' blanks := fun ⟨u, v, huv⟩ =>
    absurd (hblank '/' (by rw [← huv]; simp)) (by decide)
  obtain ⟨place, -, hstrip⟩ := Normal.strip_append_cons (c := '#') (by decide) (by decide) {} none
    blanks rest
  rw [Normal.strip_eq_self hfree, Normal.strip_cons _ (by rintro ⟨⟩), Normal.prepend_eq] at hstrip
  rw [normalize, h.unified_eq, hstrip]
  exact Text.head?_trim hblank (c := '#') rfl _

theorem StartsHash.one_line_normalize (h : StartsHash c) : '\n' ∉ (normalize c).text := by
  rw [← List.count_eq_zero, count_normalize, h.unified_eq, List.count_eq_zero]
  exact h.one_line

/-! ## Compilations -/

/-- The line moves nothing to another line. -/
theorem lineOf_moved (hline : '\n' ∉ line) (w v : Text) (p : Nat) :
    lineOf (withLine w line v) (moved (w.length + 1) line.length p) =
      lineOf (withLine w [] v) p := by
  have hfront (line : Text) : withLine w line v = (w ++ ['\n']) ++ (line ++ '\n' :: v) := by
    simp [withLine]
  have hlength : (w ++ ['\n']).length = w.length + 1 := by simp
  rw [moved]
  split
  · rename_i hp
    have hle : p ≤ (w ++ ['\n']).length := hlength.symm ▸ Nat.le_of_lt hp
    rw [hfront, hfront, lineOf_append_of_le hle, lineOf_append_of_le hle]
  · rename_i hp
    obtain ⟨i, rfl⟩ := Nat.exists_eq_add_of_le (Nat.le_of_not_lt hp)
    have htake : (withLine w line v).take (w.length + 1 + i + line.length) =
        (w ++ ['\n']) ++ (line ++ ('\n' :: v).take i) := by
      rw [hfront, ← hlength, Nat.add_assoc, List.take_length_add_append, Nat.add_comm i,
        List.take_length_add_append]
    have htake' : (withLine w [] v).take (w.length + 1 + i) =
        (w ++ ['\n']) ++ ('\n' :: v).take i := by
      rw [hfront, ← hlength, List.take_length_add_append]
      rfl
    simp only [lineOf, htake, htake', List.count_append, List.count_eq_zero_of_not_mem hline,
      Nat.zero_add]

/-- A line that begins with `#` declares no page type. -/
theorem HashLine.pageType?_withLine (h : HashLine line) (w v : Text) :
    pageType? (withLine w line v) = pageType? (withLine w [] v) := by
  have hnone : pageType? line = none := by
    rw [pageType?, Text.lines, Text.splitOn_of_forall_not (Text.beq_eq_false_of_mem h.one_line),
      List.findSome?_singleton]
    exact pageTypeOf?_eq_none h.hash (by decide)
  have hempty : pageType? [] = none := rfl
  rw [withLine, withLine, pageType?_append_line, pageType?_append_line, pageType?_append_line,
    pageType?_append_line, hnone, hempty]

/-- Nothing is read in the line before lines are: it opens no comment, its braces are matched, a
scan for items finds nothing in it, and no option group goes over it, with the line or without. -/
@[mk_iff] structure Unread (s c t : Text) : Prop where
  comments_closed : (normalize c).unclosed = none
  braces_closed : braceDepth? 0 (normalize c).text = some 0
  no_items : scanBlocks .items ⟨0, (normalize c).text⟩ = {}
  groups : GroupsStay (normalize s).text.length (blocksRead (s ++ t))
  groups_line : GroupsStay (normalize s).text.length (blocksRead (s ++ (c ++ t)))
  /-- No group parts a brace from its match where sections outside path blocks are looked for. -/
  stray_groups : pathBlocks (s ++ t) ≠ [] →
    ∀ b ∈ (scanBlocks .section (normalFragment (s ++ t))).blocks,
      b.stop < (normalize s).text.length → braceDepth? 0 b.trailer.chars = some 0

instance (s c t : Text) : Decidable (Unread s c t) := decidable_of_iff' _ (unread_iff s c t)

/-- A line that begins with `#` does nothing on an empty line in the body of a section, where
nothing of it is read before lines are. -/
theorem compile_hashLine {s c t : Text} (h : EmptyLine s t)
    (hin : ∃ b ∈ compiledSections (s ++ t), b.body.Covers (normalize s).text.length)
    (hc : StartsHash c) (hunread : Unread s c t) :
    compile (s ++ (c ++ t)) = compile (s ++ t) := by
  obtain ⟨w, v, unclosed, hs, hempty, hline⟩ := h.exists_normalize hc hunread.comments_closed
  have hhash : HashLine (normalize c).text :=
    ⟨hc.hash_normalize, hc.one_line_normalize, hunread.braces_closed, hunread.no_items⟩
  have hq : (normalize s).text.length = 0 + w.length + 1 := by simp [hs]
  have hf : (normalFragment (s ++ t)).Inserted (normalize s).text.length (normalize c).text
      (normalFragment (s ++ (c ++ t))) := by
    rw [normalFragment, normalFragment, hempty, hline]
    exact .mk hq.symm
  have hscopes : scopes (normalFragment (s ++ (c ++ t))) =
      (scopes (normalFragment (s ++ t))).move (normalize s).text.length
        (normalize c).text.length := by
    obtain ⟨b, hb, hcovers⟩ := hin
    by_cases hp : pathBlocks (s ++ t) = []
    · rw [compiledSections, if_pos hp] at hb
      exact scopes_inserted_of_no_path hhash hf hp hb hcovers hunread.groups hunread.groups_line
    · rw [compiledSections, if_neg hp] at hb
      obtain ⟨p, hmem, hb⟩ := List.mem_flatMap.mp hb
      exact scopes_inserted_of_paths hhash hf hmem hb hcovers hunread.groups hunread.groups_line
        (hunread.stray_groups hp)
  rw [normalFragment, normalFragment, hempty, hline, hs, List.length_append] at hscopes
  unfold compile compileNormal
  rw [hempty, hline]
  dsimp only
  rw [hscopes, hhash.pageType?_withLine, Noted.move, List.map_map]
  congr 2
  exact List.map_congr_left fun note _ =>
    congrArg (Diagnostic.mk · note.issue) (lineOf_moved hhash.one_line w v note.start)

/-- A text up to an empty line in a block of items, and from there on. -/
def emptyLineText : Text × Text :=
  ("section: s .s \x7b\n items: .i \x7b\n".toList, "\n  link: a\n \x7d\n\x7d".toList)

/-- A line with braces, brackets, a keyword and a comment. -/
def noteLine : Text := "  # section: t .t \x7b [b] \x7d /* c */".toList

theorem compile_hashLine_noteLine :
    (EmptyLine emptyLineText.1 emptyLineText.2 ∧ StartsHash noteLine ∧
      Unread emptyLineText.1 noteLine emptyLineText.2) ∧
    (∃ b ∈ compiledSections (emptyLineText.1 ++ emptyLineText.2),
      b.body.Covers (normalize emptyLineText.1).text.length) ∧
    compile (emptyLineText.1 ++ (noteLine ++ emptyLineText.2)) =
      compile (emptyLineText.1 ++ emptyLineText.2) := by
  have hempty : EmptyLine emptyLineText.1 emptyLineText.2 := by decide +kernel
  have hin : ∃ b ∈ compiledSections (emptyLineText.1 ++ emptyLineText.2),
      b.body.Covers (normalize emptyLineText.1).text.length := by decide +kernel
  have hstarts : StartsHash noteLine := by decide +kernel
  have hunread : Unread emptyLineText.1 noteLine emptyLineText.2 := by decide +kernel
  exact ⟨⟨hempty, hstarts, hunread⟩, hin, compile_hashLine hempty hin hstarts hunread⟩

end PageRules.RuleText
