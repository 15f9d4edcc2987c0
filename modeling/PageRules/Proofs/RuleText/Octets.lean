import Mathlib
import PageRules.Proofs.RuleText.SilentLine
import PageRules.Proofs.Text.Octets

/-!
# Scans of bytes

All that a scan looks for is ASCII, so a scan of the bytes of a text finds what a scan of its
characters finds, at the offsets of the same places (`scanFrom_octets`). Lines between holes are cut
at the same places too (`linesExcluding_octets`).
-/

namespace PageRules.RuleText

open Text (octets octetsOfParts byteOffset AsciiOnly octets_append octets_cons octets_cons_of_ascii
  octets_ascii asciiOnly_beq not_mem_octets)

variable {k : Keyword} {c : Char} {s t : Text}

/-! ## Characters that a scan looks for -/

theorem asciiOnly_isGap : AsciiOnly Text.isGap := (asciiOnly_beq ' ').or (asciiOnly_beq '\t')

theorem asciiOnly_isSpace : AsciiOnly Text.isSpace :=
  (((asciiOnly_isGap.or (asciiOnly_beq '\n')).or (asciiOnly_beq '\x0c')).or (asciiOnly_beq '\r'))

theorem asciiOnly_boundsKeyword : AsciiOnly boundsKeyword :=
  (((asciiOnly_isGap.or (asciiOnly_beq '\n')).or (asciiOnly_beq '\x7b')).or
    (asciiOnly_beq '\x7d')).or (asciiOnly_beq ';')

/-- The lower case of a character beyond ASCII is the character. -/
theorem asciiOnly_toLower {a : Char} (ha : a.toNat < 0x80) : AsciiOnly (a == ·.toLower) := by
  intro c hc
  change (a == c.toLower) = false
  have hupper : ¬ c.isUpper = true := by
    intro hu
    simp only [Char.isUpper, ge_iff_le, UInt32.le_iff_toNat_le, decide_eq_true_eq] at hu
    change 65 ≤ c.toNat ∧ c.toNat ≤ 90 at hu
    omega
  rw [Char.toLower_eq_of_not_isUpper hupper, beq_eq_false_iff_ne]
  rintro rfl
  omega

/-! ## Keywords -/

/-- A word of ASCII is found in the bytes where it is found in the text. -/
theorem afterWord?_octets {w : Text} (hw : ∀ a ∈ w, a.toNat < 0x80) (t : Text) :
    Keyword.afterWord? w (octets t) = (Keyword.afterWord? w t).map octets := by
  induction w generalizing t with
  | nil => simp [Keyword.afterWord?]
  | cons a w ih =>
    have ha := asciiOnly_toLower (hw a List.mem_cons_self)
    cases t with
    | nil => rfl
    | cons c t =>
      cases hc : a == c.toLower with
      | true =>
        rw [octets_cons_of_ascii (ha.ascii hc), Keyword.afterWord?, Keyword.afterWord?, if_pos hc,
          if_pos hc, ih fun d hd => hw d (List.mem_cons_of_mem _ hd)]
      | false =>
        obtain ⟨o, v, hv, ho⟩ := ha.exists_octets_eq_cons hc t
        rw [hv, Keyword.afterWord?, Keyword.afterWord?, if_neg (by simp [ho]),
          if_neg (by simp [hc])]
        rfl

theorem Keyword.ascii_of_mem_name (h : c ∈ k.name) : c.toNat < 0x80 := by
  have hall : k.name.all fun a => decide (a.toNat < 0x80) := by cases k <;> rfl
  exact of_decide_eq_true (List.all_eq_true.mp hall c h)

/-- The keywords are ASCII, and so are the gap and the colon behind them. -/
theorem after?_octets (k : Keyword) (t : Text) : k.after? (octets t) = (k.after? t).map octets := by
  rw [Keyword.after?, afterWord?_octets fun _ => Keyword.ascii_of_mem_name, Keyword.after?]
  cases Keyword.afterWord? k.name t with
  | none => rfl
  | some rest =>
    rw [Option.map_some]
    dsimp only
    rw [asciiOnly_isGap.dropWhile_octets]
    cases rest.dropWhile Text.isGap with
    | nil => rfl
    | cons d header =>
      by_cases hd : d = ':'
      · subst hd
        rw [octets_cons_of_ascii (by decide)]
        rfl
      · obtain ⟨o, v, hv, ho⟩ :=
          (asciiOnly_beq ':').exists_octets_eq_cons (beq_eq_false_iff_ne.mpr hd) header
        have hne : o ≠ ':' := beq_eq_false_iff_ne.mp ho
        rw [hv]
        simp [hd, hne]

/-! ## Headers, bodies and option groups -/

theorem header?_prepend (hs : IsHeader s) (t : Text) :
    header? (s ++ t) = (header? t).map fun (header, after) => (s ++ header, after) := by
  induction s with
  | nil => simp
  | cons c s ih =>
    have ho : c ≠ '\x7b' := (List.ne_of_not_mem_cons hs.no_open).symm
    have hc : c ≠ '\x7d' := (List.ne_of_not_mem_cons hs.no_close).symm
    have hn : c ≠ '\n' := (List.ne_of_not_mem_cons hs.no_break).symm
    have htail : IsHeader s := ⟨List.not_mem_of_not_mem_cons hs.no_open,
      List.not_mem_of_not_mem_cons hs.no_close, List.not_mem_of_not_mem_cons hs.no_break⟩
    rw [List.cons_append, header?, if_neg (by simpa using ho), if_neg (by simp [hc, hn]), ih htail,
      Option.map_map]
    rfl

/-- A header is cut out of the bytes at the brace that ends it in the text. -/
theorem header?_octets (t : Text) : header? (octets t) = (header? t).map octetsOfParts := by
  induction t with
  | nil => rfl
  | cons c t ih =>
    by_cases ho : c = '\x7b'
    · subst ho
      rw [octets_cons_of_ascii (by decide)]
      rfl
    by_cases hc : c = '\x7d'
    · subst hc
      rw [octets_cons_of_ascii (by decide)]
      rfl
    by_cases hn : c = '\n'
    · subst hn
      rw [octets_cons_of_ascii (by decide)]
      rfl
    have hstep : header? ([c] ++ t) = _ := header?_prepend
      ⟨by simpa using Ne.symm ho, by simpa using Ne.symm hc, by simpa using Ne.symm hn⟩ t
    have hbytes : IsHeader (octets [c]) := ⟨not_mem_octets ho, not_mem_octets hc, not_mem_octets hn⟩
    rw [octets_cons, header?_prepend hbytes, ih, Text.map_prepend_octets]
    exact congrArg (Option.map octetsOfParts) hstep.symm

theorem body?_prepend (ho : '\x7b' ∉ s) (hc : '\x7d' ∉ s) (depth : Nat) (t : Text) :
    body? depth (s ++ t) = (body? depth t).map fun (body, after) => (s ++ body, after) :=
  body?_append_of_braceDepth (braceDepth?_of_not_mem ho hc depth) t

/-- The braces are counted the same in the bytes, so a body ends at the same one. -/
theorem body?_octets (depth : Nat) (t : Text) :
    body? depth (octets t) = (body? depth t).map octetsOfParts := by
  induction t generalizing depth with
  | nil => rfl
  | cons c t ih =>
    by_cases ho : c = '\x7b'
    · subst ho
      rw [octets_cons_of_ascii (by decide), body?_open, body?_open, ih,
        ← Text.map_prepend_octets, octets_ascii (by decide)]
      rfl
    by_cases hc : c = '\x7d'
    · subst hc
      rw [octets_cons_of_ascii (by decide)]
      cases depth with
      | zero =>
        rw [body?_close_zero, body?_close_zero]
        rfl
      | succ depth =>
        rw [body?_close_succ, body?_close_succ, ih, ← Text.map_prepend_octets,
          octets_ascii (by decide)]
        rfl
    rw [octets_cons, body?_prepend (not_mem_octets ho) (not_mem_octets hc), ih,
      Text.map_prepend_octets, body?_cons ho hc]

theorem group?_octets (t : Text) : group? (octets t) = (group? t).map octetsOfParts := by
  induction t with
  | nil => rfl
  | cons c t ih =>
    cases hs : Text.isSpace c with
    | true =>
      have hc := asciiOnly_isSpace.ascii hs
      rw [octets_cons_of_ascii hc, group?_space hs, group?_space hs, ih,
        ← Text.map_prepend_octets, octets_ascii hc]
      rfl
    | false =>
      by_cases hc : c = '['
      · subst hc
        rw [octets_cons_of_ascii (by decide), group?_open, group?_open,
          (asciiOnly_beq ']').splitOnce_octets, Option.map_map, Option.map_map]
        refine congrArg (Option.map · _) (funext fun parts => ?_)
        have hgroup : octets ('[' :: parts.1 ++ [']']) = '[' :: octets parts.1 ++ [']'] := by
          rw [List.cons_append, octets_cons_of_ascii (by decide), octets_append,
            octets_ascii (by decide)]
          rfl
        exact Prod.ext hgroup.symm rfl
      · have hopens : AsciiOnly fun c => Text.isSpace c || c == '[' :=
          asciiOnly_isSpace.or (asciiOnly_beq '[')
        obtain ⟨o, v, hv, ho⟩ := hopens.exists_octets_eq_cons (c := c) (by simp [hs, hc]) t
        obtain ⟨hspace, hbracket⟩ := Bool.or_eq_false_iff.mp ho
        rw [hv, group?_other hspace (beq_eq_false_iff_ne.mp hbracket), group?_other hs hc]
        rfl

/-- Option groups are taken from the bytes as from the text. -/
theorem optionRun_octets (t : Text) : optionRun (octets t) = octetsOfParts (optionRun t) := by
  fun_induction optionRun t with
  | case1 t group after hg more rest hr ih =>
    have hgroup : group? (octets t) = some (octets group, octets after) := by
      rw [group?_octets, hg]
      rfl
    rw [optionRun_of_some hgroup, ih, hr]
    exact Prod.ext (octets_append ..).symm rfl
  | case2 t hg =>
    have hgroup : group? (octets t) = none := by
      rw [group?_octets, hg]
      rfl
    rw [optionRun_of_none hgroup]
    rfl

/-! ## Openings -/

/-- The sizes counted in bytes of the text `t`, and the pieces in bytes. -/
def Opening.inBytes (t : Text) : Opening → Opening
  | .none => .none
  | .noBrace size after => .noBrace (byteOffset t size) (octets after)
  | .unmatchedBrace size after => .unmatchedBrace (byteOffset t size) (octets after)
  | .block lead header body trailer after =>
    .block (byteOffset t lead) (octets header) (octets body) (octets trailer) (octets after)

theorem Opening.inBytes_noBrace (t : Text) (size : Nat) (after : Text) :
    (noBrace size after).inBytes t = .noBrace (byteOffset t size) (octets after) := rfl

theorem Opening.inBytes_unmatchedBrace (t : Text) (size : Nat) (after : Text) :
    (unmatchedBrace size after).inBytes t = .unmatchedBrace (byteOffset t size) (octets after) :=
  rfl

theorem Opening.inBytes_block (t : Text) (lead : Nat) (header body trailer after : Text) :
    (block lead header body trailer after).inBytes t =
      .block (byteOffset t lead) (octets header) (octets body) (octets trailer) (octets after) :=
  rfl

theorem octetsOfParts_mk (s t : Text) : octetsOfParts (s, t) = (octets s, octets t) := rfl

/-- A keyword opens the same in the bytes, with its size counted in them. -/
theorem read_octets (k : Keyword) (t : Text) :
    Opening.read k (octets t) = (Opening.read k t).inBytes t := by
  unfold Opening.read
  rw [after?_octets]
  cases hk : k.after? t with
  | none => rfl
  | some afterColon =>
    obtain ⟨word, -, rfl⟩ := Keyword.after?_eq_some hk
    have hlead : (octets (word ++ afterColon)).length - (octets afterColon).length =
        (octets word).length := by
      rw [octets_append, List.length_append, Nat.add_sub_cancel]
    rw [Option.map_some]
    dsimp only
    rw [hlead, header?_octets, List.length_append, Nat.add_sub_cancel]
    cases hh : header? afterColon with
    | none =>
      rw [Option.map_none, Opening.inBytes_noBrace, Text.byteOffset_append]
    | some parts =>
      obtain ⟨header, afterBrace⟩ := parts
      obtain ⟨rfl, -⟩ := header?_eq_some hh
      rw [Option.map_some, octetsOfParts_mk]
      dsimp only
      rw [body?_octets]
      cases hb : body? 0 afterBrace with
      | none =>
        have hsize : byteOffset (word ++ (header ++ '\x7b' :: afterBrace))
            (word.length + header.length + 1) =
              (octets word).length + (octets header).length + 1 := by
          have happend := Text.byteOffset_append (word ++ header ++ ['\x7b']) afterBrace
          simpa [octets_ascii, Nat.add_assoc] using happend
        rw [Option.map_none, Opening.inBytes_unmatchedBrace, hsize]
      | some parts =>
        rw [Option.map_some, octetsOfParts_mk, Opening.inBytes_block, Text.byteOffset_append]
        dsimp only
        rw [optionRun_octets]
        rfl

/-! ## Scans -/

variable {text : Text} {pos : Nat}

def Fragment.inBytes (text : Text) (f : Fragment) : Fragment :=
  ⟨byteOffset text f.start, octets f.chars⟩

@[simp] theorem Fragment.start_inBytes (f : Fragment) :
    (f.inBytes text).start = byteOffset text f.start := rfl

@[simp] theorem Fragment.chars_inBytes (f : Fragment) :
    (f.inBytes text).chars = octets f.chars := rfl

def Block.inBytes (text : Text) (b : Block) : Block :=
  ⟨byteOffset text b.start, b.header.inBytes text, b.body.inBytes text, b.trailer.inBytes text⟩

def Malformed.inBytes (text : Text) (m : Malformed) : Malformed :=
  { m with start := byteOffset text m.start }

theorem Malformed.start_inBytes (m : Malformed) :
    (m.inBytes text).start = byteOffset text m.start := rfl

/-- What a scan of a text finds, at its places in the bytes of the text. -/
def Scan.inBytes (text : Text) (s : Scan) : Scan :=
  ⟨s.blocks.map (·.inBytes text), s.malformed.map (·.inBytes text)⟩

/-- Offsets go on by the bytes of what is passed. -/
theorem byteOffset_step {s rest : Text} (h : s ++ rest <+: text.drop pos) :
    byteOffset text pos + (octets s).length = byteOffset text (pos + s.length) ∧
      rest <+: text.drop (pos + s.length) := by
  obtain ⟨v, hv⟩ := h
  rw [List.append_assoc] at hv
  refine ⟨(Text.byteOffset_add hv.symm).symm, v, ?_⟩
  rw [← List.drop_drop, ← hv, List.drop_left]

/-- The parts of a block in the bytes begin where the encodings of its parts do. -/
theorem Block.inBytes_opened {word header body trailer : Text}
    (h : pieces word header body trailer <+: text.drop pos) :
    (opened pos word.length header body trailer).inBytes text =
      opened (byteOffset text pos) (octets word).length (octets header) (octets body)
        (octets trailer) := by
  have hat (s rest : Text) (hs : s ++ rest = pieces word header body trailer) :
      byteOffset text (pos + s.length) = byteOffset text pos + (octets s).length :=
    (byteOffset_step (hs ▸ h)).1.symm
  have hheader := hat word _ rfl
  have hbody := hat (word ++ header ++ ['\x7b']) (body ++ '\x7d' :: trailer) (by simp [pieces])
  have htrailer := hat (word ++ header ++ ['\x7b'] ++ body ++ ['\x7d']) trailer
    (by simp [pieces])
  simp only [List.length_append, List.length_cons, List.length_nil, octets_append,
    octets_ascii (show '\x7b'.toNat < 0x80 by decide),
    octets_ascii (show '\x7d'.toNat < 0x80 by decide), Nat.zero_add, ← Nat.add_assoc]
    at hbody htrailer
  change Block.mk (byteOffset text pos) ⟨byteOffset text (pos + word.length), octets header⟩
    ⟨byteOffset text (pos + word.length + header.length + 1), octets body⟩
    ⟨byteOffset text (pos + word.length + header.length + 1 + body.length + 1), octets trailer⟩ = _
  rw [hheader, hbody, htrailer]
  rfl

/-- A scan passes over the bytes of a character beyond ASCII. -/
theorem scanFrom_inert (hs : ∀ c ∈ s, 0x80 ≤ c.toNat) (hne : s ≠ []) (pos depth : Nat) (b : Bool)
    (t : Text) : scanFrom k pos depth b (s ++ t) = scanFrom k (pos + s.length) depth false t := by
  induction s generalizing pos b with
  | nil => exact absurd rfl hne
  | cons c s ih =>
    have hc := hs c List.mem_cons_self
    have hletter : c.toLower ∉ k.name := by
      intro hm
      have heq := asciiOnly_toLower (Keyword.ascii_of_mem_name hm) c hc
      simp at heq
    have hother {a : Char} (ha : a.toNat < 0x80) : c ≠ a := by
      rintro rfl
      omega
    rw [List.cons_append, scanFrom_cons _ _ (hother (by decide)) (hother (by decide))
      (readIf_eq_none fun _ => Keyword.after?_cons_of_not_letter hletter _),
      asciiOnly_boundsKeyword c hc, add_length_cons]
    cases s with
    | nil => rfl
    | cons d s => exact ih (fun a ha => hs a (List.mem_cons_of_mem _ ha)) (by simp) (pos + 1) false

theorem readIf_octets (allowed : Bool) (k : Keyword) (t : Text) :
    Opening.readIf allowed k (octets t) = (Opening.readIf allowed k t).inBytes t := by
  cases allowed with
  | true => exact read_octets k t
  | false => rfl

/-- What opens begins with a character of ASCII, and a scan of bytes goes on as its opening says. -/
theorem scanFrom_octets_of_readIf {depth : Nat} {b : Bool} {c : Char} {o : Opening}
    (hbrace : c ≠ '\x7b') (hclose : c ≠ '\x7d')
    (h : Opening.readIf (depth == 0 && b) k (c :: t) = o) (ho : o ≠ .none) (pos : Nat) :
    scanFrom k pos depth b (octets (c :: t)) =
      (o.inBytes (c :: t)).goOn k pos depth c (octets t) := by
  have hc : c.toNat < 0x80 := by
    have hopens := isSome_after?_of_readIf (h.trans_ne ho)
    obtain ⟨header, hheader⟩ := Option.isSome_iff_exists.mp hopens
    have hletter := Keyword.ascii_of_mem_name (List.mem_of_mem_head? (head_of_after? hheader))
    exact (asciiOnly_toLower hletter).ascii (beq_self_eq_true _)
  rw [← h, ← readIf_octets, octets_cons_of_ascii hc, scanFrom_step hbrace hclose]

/-- A scan of the bytes of a text finds what a scan of the text finds. -/
theorem scanFrom_octets (depth : Nat) (b : Bool) (ht : t <+: text.drop pos) :
    scanFrom k (byteOffset text pos) depth b (octets t) =
      (scanFrom k pos depth b t).inBytes text := by
  fun_induction scanFrom k pos depth b t with
  | case1 => exact scanFrom_nil ..
  | case2 pos depth b c rest hc ih =>
    cases eq_of_beq hc
    obtain ⟨hoffset, hdrop⟩ := byteOffset_step (s := ['\x7b']) ht
    rw [octets_ascii (by decide)] at hoffset
    rw [octets_cons_of_ascii (by decide), scanFrom_open, ← ih hdrop]
    exact congrArg (scanFrom k · _ _ _) hoffset
  | case3 pos depth b c rest _ hc ih =>
    cases eq_of_beq hc
    obtain ⟨hoffset, hdrop⟩ := byteOffset_step (s := ['\x7d']) ht
    rw [octets_ascii (by decide)] at hoffset
    rw [octets_cons_of_ascii (by decide), scanFrom_close, ← ih hdrop]
    exact congrArg (scanFrom k · _ _ _) hoffset
  | case4 pos depth b c rest ho hc hr ih =>
    obtain ⟨hoffset, hdrop⟩ := byteOffset_step (s := [c]) ht
    rw [List.length_singleton] at hoffset hdrop
    rw [← ih hdrop, ← hoffset]
    by_cases hascii : c.toNat < 0x80
    · have hread := readIf_octets (depth == 0 && b) k (c :: rest)
      rw [hr, octets_cons_of_ascii hascii] at hread
      rw [octets_cons_of_ascii hascii, octets_ascii hascii,
        scanFrom_cons _ _ (by simpa using ho) (by simpa using hc) hread]
      rfl
    · have hbeyond : ∀ o ∈ octets [c], 0x80 ≤ o.toNat := fun o =>
        Text.le_of_mem_octets (Nat.le_of_not_lt hascii)
      rw [octets_cons, scanFrom_inert hbeyond (Text.octets_singleton_ne_nil c),
        asciiOnly_boundsKeyword c (Nat.le_of_not_lt hascii)]
  | case5 pos depth b c rest ho hc size after hr _ ih =>
    obtain ⟨word, -, htext, rfl, -⟩ := Opening.fits_readIf hr
    obtain ⟨hoffset, hdrop⟩ := byteOffset_step (htext ▸ ht)
    rw [scanFrom_octets_of_readIf (by simpa using ho) (by simpa using hc) hr (by rintro ⟨⟩),
      Opening.inBytes_noBrace, Opening.goOn, htext, Text.byteOffset_append, hoffset, ih hdrop]
    rfl
  | case6 pos depth b c rest ho hc size after hr _ ih =>
    obtain ⟨word, header, -, -, htext, rfl, -⟩ := Opening.fits_readIf hr
    have hsplit : c :: rest = (word ++ header ++ ['\x7b']) ++ after := by simp [htext]
    have hlength : word.length + header.length + 1 = (word ++ header ++ ['\x7b']).length := by
      simp [Nat.add_assoc]
    rw [hlength] at hr ih ⊢
    obtain ⟨hoffset, hdrop⟩ := byteOffset_step (hsplit ▸ ht)
    rw [scanFrom_octets_of_readIf (by simpa using ho) (by simpa using hc) hr (by rintro ⟨⟩),
      Opening.inBytes_unmatchedBrace, Opening.goOn, hsplit, Text.byteOffset_append, hoffset,
      ih hdrop]
    rfl
  | case7 pos depth b c rest ho hc lead header body trailer after hr _ bodyStart =>
    rename_i trailerStart ih
    obtain ⟨word, -, htext, rfl⟩ := Opening.fits_readIf hr
    have hopened := Block.inBytes_opened ((List.prefix_append ..).trans (htext ▸ ht))
    have hstop : trailerStart + trailer.length = pos + (pieces word header body trailer).length :=
      Block.stop_opened pos word header body trailer
    obtain ⟨hoffset, hdrop⟩ := byteOffset_step (htext ▸ ht)
    rw [hstop] at ih ⊢
    have hpieces : octets (pieces word header body trailer) =
        pieces (octets word) (octets header) (octets body) (octets trailer) := by
      simp [pieces, octets_cons_of_ascii]
    have hlead : byteOffset (pieces word header body trailer ++ after) word.length =
        (octets word).length := by
      rw [pieces, List.append_assoc, Text.byteOffset_append]
    rw [scanFrom_octets_of_readIf (by simpa using ho) (by simpa using hc) hr (by rintro ⟨⟩),
      Opening.inBytes_block, Opening.goOn, htext, hlead, Block.stop_opened, ← hpieces, hoffset,
      Text.isEmpty_octets, ih hdrop, ← hopened]
    rfl

/-- A scan of a fragment in bytes. -/
theorem scanBlocks_octets {f : Fragment} (hf : f.chars <+: text.drop f.start) :
    scanBlocks k (f.inBytes text) = (scanBlocks k f).inBytes text := scanFrom_octets 0 true hf

/-! ## Lines -/

variable {holes : List Hole}

def Hole.inBytes (text : Text) (h : Hole) : Hole :=
  ⟨byteOffset text h.start, byteOffset text h.stop⟩

theorem Hole.start_inBytes (h : Hole) : (h.inBytes text).start = byteOffset text h.start := rfl
theorem Hole.stop_inBytes (h : Hole) : (h.inBytes text).stop = byteOffset text h.stop := rfl

/-- Pieces with a text put in front of them, where it stands directly before the first or is a piece
of its own. -/
def Fragment.join (pos : Nat) (s : Text) : List Fragment → List Fragment
  | [] => [⟨pos, s⟩]
  | f :: fs => if f.start = pos + s.length then ⟨pos, s ++ f.chars⟩ :: fs else ⟨pos, s⟩ :: f :: fs

theorem Fragment.join_nil (pos : Nat) (s : Text) : join pos s [] = [⟨pos, s⟩] := rfl

theorem Fragment.join_cons (pos : Nat) (s : Text) (f : Fragment) (fs : List Fragment) :
    join pos s (f :: fs) = if f.start = pos + s.length then ⟨pos, s ++ f.chars⟩ :: fs
      else ⟨pos, s⟩ :: f :: fs := rfl

/-- A character that is no line break goes in front of the line that begins right behind it. -/
theorem attachLine_of_ne (hc : c ≠ '\n') (pos : Nat) (lines : List Fragment) :
    attachLine pos c lines = Fragment.join pos [c] lines := by
  rw [attachLine, if_neg hc]
  cases lines with
  | nil => rfl
  | cons f fs => simp [Fragment.attach, Fragment.join_cons]

theorem Fragment.join_join (pos : Nat) (c : Char) (s : Text) (fs : List Fragment) :
    join pos [c] (join (pos + 1) s fs) = join pos (c :: s) fs := by
  cases fs with
  | nil => simp [join_nil, join_cons]
  | cons f fs =>
    by_cases hf : f.start = pos + (s.length + 1)
    · simp [join_cons, hf, Nat.add_assoc, Nat.add_comm 1]
    · simp [join_cons, hf, Nat.add_assoc, Nat.add_comm 1]

/-- What is cut out as a whole is in no line. -/
theorem linesExcluding_append_covered (hs : ∀ i < s.length, holes.any (·.covers (pos + i)) = true)
    (t : Text) :
    linesExcluding ⟨pos, s ++ t⟩ holes = linesExcluding ⟨pos + s.length, t⟩ holes := by
  rw [linesExcluding, uncovered_append_of_covered pos hs]
  rfl

/-- What is not cut out goes in front of the first line behind it, where they touch. -/
theorem linesExcluding_append_free (hs : ∀ i < s.length, holes.any (·.covers (pos + i)) = false)
    (hne : s ≠ []) (hbreak : '\n' ∉ s) (t : Text) :
    linesExcluding ⟨pos, s ++ t⟩ holes =
      Fragment.join pos s (linesExcluding ⟨pos + s.length, t⟩ holes) := by
  induction s generalizing pos with
  | nil => exact absurd rfl hne
  | cons c s ih =>
    have hc : c ≠ '\n' := (List.ne_of_not_mem_cons hbreak).symm
    have hfirst : holes.any (·.covers pos) = false := hs 0 (Nat.zero_lt_succ _)
    rw [List.cons_append, linesExcluding_cons hfirst, attachLine_of_ne hc]
    cases s with
    | nil => rfl
    | cons d s =>
      have hrest : ∀ i < (d :: s).length, holes.any (·.covers (pos + 1 + i)) = false := by
        intro i hi
        rw [Nat.add_assoc, Nat.add_comm 1]
        exact hs (i + 1) (Nat.succ_lt_succ hi)
      rw [ih hrest (by simp) (List.not_mem_of_not_mem_cons hbreak), Fragment.join_join,
        add_length_cons pos c (d :: s)]

/-- A hole covers all bytes of the characters that it covers. -/
theorem Hole.covers_inBytes {h : Hole} {q : Nat} (hlow : byteOffset text pos ≤ q)
    (hhigh : q < byteOffset text (pos + 1)) : (h.inBytes text).covers q = h.covers pos := by
  have hstart : byteOffset text h.start ≤ q ↔ h.start ≤ pos := by
    refine ⟨fun hle => Nat.le_of_not_lt fun hlt => ?_, fun hle => ?_⟩
    · exact absurd (hle.trans_lt hhigh) (Nat.not_lt.mpr (Text.byteOffset_mono hlt))
    · exact (Text.byteOffset_mono hle).trans hlow
  have hstop : q < byteOffset text h.stop ↔ pos < h.stop := by
    refine ⟨fun hlt => Nat.lt_of_not_le fun hle => ?_, fun hlt => ?_⟩
    · exact absurd (hlow.trans_lt hlt) (Nat.not_lt.mpr (Text.byteOffset_mono hle))
    · exact hhigh.trans_le (Text.byteOffset_mono hlt)
  rw [covers, covers, start_inBytes, stop_inBytes, decide_eq_decide.mpr hstart,
    decide_eq_decide.mpr hstop]

/-- Lines touch in the bytes just where they touch in the text. -/
theorem join_inBytes {fs : List Fragment} (c : Char)
    (h : ∀ f ∈ fs, byteOffset text f.start = byteOffset text pos + (octets [c]).length ↔
      f.start = pos + 1) :
    (Fragment.join pos [c] fs).map (·.inBytes text) =
      Fragment.join (byteOffset text pos) (octets [c]) (fs.map (·.inBytes text)) := by
  cases fs with
  | nil => rfl
  | cons f fs =>
    have hf : (f.inBytes text).start = byteOffset text pos + (octets [c]).length ↔
        f.start = pos + [c].length := h f List.mem_cons_self
    rw [List.map_cons, Fragment.join_cons, Fragment.join_cons]
    by_cases hstart : f.start = pos + [c].length
    · rw [if_pos hstart, if_pos (hf.mpr hstart), List.map_cons, Fragment.chars_inBytes,
        ← octets_append]
      rfl
    · rw [if_neg hstart, if_neg fun hbytes => hstart (hf.mp hbytes)]
      rfl

theorem attachLine_break_inBytes {fs : List Fragment}
    (h : ∀ f ∈ fs, byteOffset text f.start = byteOffset text pos + 1 ↔ f.start = pos + 1)
    (hnext : byteOffset text (pos + 1) = byteOffset text pos + 1) :
    (attachLine pos '\n' fs).map (·.inBytes text) =
      attachLine (byteOffset text pos) '\n' (fs.map (·.inBytes text)) := by
  have hempty (p : Nat) : Fragment.inBytes text ⟨p, []⟩ = ⟨byteOffset text p, []⟩ := rfl
  cases fs with
  | nil => simp [attachLine, hempty, hnext]
  | cons f fs =>
    have hf := h f List.mem_cons_self
    by_cases hstart : f.start = pos + 1
    · simp [attachLine, hempty, hstart, hnext]
    · simp [attachLine, hempty, hnext, hstart, hf]

/-- The lines of the bytes outside the holes are those of the text. -/
theorem linesExcluding_octets (holes : List Hole) (ht : t <+: text.drop pos) :
    linesExcluding ⟨byteOffset text pos, octets t⟩ (holes.map (·.inBytes text)) =
      (linesExcluding ⟨pos, t⟩ holes).map (·.inBytes text) := by
  induction t generalizing pos with
  | nil => rfl
  | cons c t ih =>
    obtain ⟨hoffset, htail⟩ := byteOffset_step (s := [c]) ht
    rw [List.length_singleton] at hoffset htail
    have hcovers : ∀ i < (octets [c]).length,
        (holes.map (·.inBytes text)).any (·.covers (byteOffset text pos + i)) =
          holes.any (·.covers pos) := by
      intro i hi
      rw [List.any_map]
      refine congrArg holes.any (funext fun h => Hole.covers_inBytes (Nat.le_add_right ..) ?_)
      rw [← hoffset]
      exact Nat.add_lt_add_left hi _
    rw [octets_cons]
    cases hc : holes.any (·.covers pos) with
    | true =>
      rw [hc] at hcovers
      rw [linesExcluding_append_covered hcovers, linesExcluding_covered hc, hoffset, ih htail]
    | false =>
      rw [hc] at hcovers
      have hstart : ∀ f ∈ linesExcluding ⟨pos + 1, t⟩ holes,
          byteOffset text f.start = byteOffset text pos + (octets [c]).length ↔
            f.start = pos + 1 := by
        intro f hf
        have hwithin := within_of_mem_linesExcluding hf
        have hlength := htail.length_le
        have hlow := hwithin.start
        have hhigh := hwithin.stop
        have hpos := ht.length_le
        simp only [Fragment.stop, List.length_drop, List.length_cons] at hlength hlow hhigh hpos
        rw [hoffset]
        exact Text.byteOffset_inj (by omega) (by omega)
      rw [linesExcluding_cons hc]
      by_cases hbreak : c = '\n'
      · subst hbreak
        have hnl : octets ['\n'] = ['\n'] := octets_ascii (by decide)
        rw [hnl] at hcovers hstart hoffset ⊢
        rw [attachLine_break_inBytes hstart hoffset.symm, ← ih htail, ← hoffset]
        exact linesExcluding_cons (hcovers 0 (by decide)) _
      · have hfree : '\n' ∉ octets [c] := by
          intro hm
          have hne := (asciiOnly_beq '\n').eq_false_of_mem_octets
            (beq_eq_false_iff_ne.mpr hbreak) hm
          simp at hne
        rw [linesExcluding_append_free hcovers (Text.octets_singleton_ne_nil c) hfree,
          attachLine_of_ne hbreak, join_inBytes c hstart, ← ih htail, hoffset]

/-! ## Holes -/

theorem Fragment.stop_inBytes {f : Fragment} (hf : f.chars <+: text.drop f.start) :
    (f.inBytes text).stop = byteOffset text f.stop := by
  obtain ⟨rest, hrest⟩ := hf
  exact (Text.byteOffset_add hrest.symm).symm

theorem Block.hole_inBytes {b : Block} (hb : b.trailer.chars <+: text.drop b.trailer.start) :
    (b.inBytes text).hole = b.hole.inBytes text := congrArg (Hole.mk _) (Fragment.stop_inBytes hb)

/-- The hole of a malformed keyword ends with its line, in the bytes too. -/
theorem Malformed.hole_inBytes {f : Fragment} {m : Malformed} (hf : f.chars <+: text.drop f.start)
    (hlow : f.start ≤ m.start) (hhigh : m.start ≤ f.stop) :
    (m.inBytes text).hole (f.inBytes text) = (m.hole f).inBytes text := by
  obtain ⟨n, hn⟩ := Nat.exists_eq_add_of_le hlow
  have hnl : AsciiOnly (· == '\n') := asciiOnly_beq '\n'
  have hlength : n ≤ f.chars.length := by
    rw [Fragment.stop, hn] at hhigh
    omega
  have hsplit : f.chars.take n ++ f.chars.drop n = f.chars := List.take_append_drop ..
  have htake : (f.chars.take n).length = n := List.length_take_of_le hlength
  obtain ⟨hoffset, hdrop⟩ := byteOffset_step (hsplit.symm ▸ hf)
  rw [htake] at hoffset hdrop
  have hrest : (f.inBytes text).chars.drop (byteOffset text m.start - byteOffset text f.start) =
      octets (f.chars.drop n) := by
    have hbytes : octets f.chars = octets (f.chars.take n) ++ octets (f.chars.drop n) := by
      rw [← octets_append, hsplit]
    rw [hn, ← hoffset, Nat.add_sub_cancel_left, Fragment.chars_inBytes, hbytes, List.drop_left]
  have hline : (octets (f.chars.drop n)).takeWhile (· != '\n') =
      octets ((f.chars.drop n).takeWhile (· != '\n')) := hnl.takeWhile_not_octets _
  have hparts := List.takeWhile_append_dropWhile (p := (· != '\n')) (l := f.chars.drop n)
  obtain ⟨hstop, -⟩ := byteOffset_step (hparts.symm ▸ hdrop)
  refine congrArg (Hole.mk _) ?_
  rw [Malformed.start_inBytes, Fragment.start_inBytes, hrest, hline, hn, hstop, hole, hn,
    Nat.add_sub_cancel_left]

end PageRules.RuleText
