import Mathlib
import PageRules.Proofs.RuleText.Comment
import PageRules.Proofs.RuleText.Loss
import PageRules.Proofs.RuleText.Origin

/-!
# Lines of diagnostics

What is noted about a block stands at the keyword of the block, and what is noted about a line
stands where the line begins (`scopes_located`). So a diagnostic names the line of the text that
holds what it is about, where comments are still in place (`diagnostics_point`).
-/

namespace PageRules.RuleText

variable {k : Keyword} {t : Text} {p : Nat}

/-! ## Keywords -/

/-- The keyword with its colon stands at the position. -/
def KeywordAt (k : Keyword) (t : Text) (p : Nat) : Prop := (k.after? (t.drop p)).isSome

/-- A character that is no line break stands at the position. -/
def InLine (t : Text) (p : Nat) : Prop := ∃ c, t[p]? = some c ∧ c ≠ '\n'

/-- A keyword begins in a line: no line break stands at it. -/
theorem KeywordAt.inLine (h : KeywordAt k t p) : InLine t p := by
  unfold KeywordAt at h
  cases hd : t.drop p with
  | nil =>
    rw [hd, Keyword.after?_nil] at h
    cases h
  | cons c rest =>
    refine ⟨c, (drop_eq_cons_iff.mp hd).1, ?_⟩
    rintro rfl
    have hn : k.Barrier '\n' := Keyword.barrier_of_mem (by decide)
    rw [hd, Keyword.after?_cons_of_not_letter hn.not_letter] at h
    cases h

/-- Behind a text a keyword stands where it stood. -/
theorem KeywordAt.append (h : KeywordAt k t p) (s : Text) :
    KeywordAt k (s ++ t) (s.length + p) := by
  rwa [KeywordAt, List.drop_length_add_append]

/-- All that a scan finds in a text that begins at `pos` stands at its keyword. -/
structure Scan.Keyed (k : Keyword) (pos : Nat) (t : Text) (scan : Scan) : Prop where
  blocks : ∀ b ∈ scan.blocks, ∃ n, b.start = pos + n ∧ KeywordAt k t n
  malformed : ∀ m ∈ scan.malformed, ∃ n, m.start = pos + n ∧ KeywordAt k t n

namespace Scan.Keyed

variable {pos : Nat} {scan : Scan}

theorem append {s : Text} (h : scan.Keyed k (pos + s.length) t) : scan.Keyed k pos (s ++ t) where
  blocks b hb := by
    obtain ⟨n, hn, hk⟩ := h.blocks b hb
    exact ⟨s.length + n, by rw [hn, Nat.add_assoc], hk.append s⟩
  malformed m hm := by
    obtain ⟨n, hn, hk⟩ := h.malformed m hm
    exact ⟨s.length + n, by rw [hn, Nat.add_assoc], hk.append s⟩

theorem consBlock {b : Block} (h : scan.Keyed k pos t) (hk : (k.after? t).isSome)
    (hb : b.start = pos) : (scan.consBlock b).Keyed k pos t where
  blocks := List.forall_mem_cons.mpr ⟨⟨0, hb, hk⟩, h.blocks⟩
  malformed := h.malformed

theorem consMalformed {m : Malformed} (h : scan.Keyed k pos t) (hk : (k.after? t).isSome)
    (hm : m.start = pos) : (scan.consMalformed m).Keyed k pos t where
  blocks := h.blocks
  malformed := List.forall_mem_cons.mpr ⟨⟨0, hm, hk⟩, h.malformed⟩

end Scan.Keyed

/-- All that a scan finds begins at a keyword. -/
theorem keyed_scanFrom (k : Keyword) (pos depth : Nat) (bounded : Bool) (t : Text) :
    (scanFrom k pos depth bounded t).Keyed k pos t := by
  fun_induction scanFrom k pos depth bounded t with
  | case1 => exact ⟨by simp, by simp⟩
  | case2 pos depth bounded c rest _ ih => exact ih.append (s := [c])
  | case3 pos depth bounded c rest _ _ ih => exact ih.append (s := [c])
  | case4 pos depth bounded c rest _ _ _ ih => exact ih.append (s := [c])
  | case5 pos depth bounded c rest _ _ size after hr _ ih =>
    have hk : (k.after? (c :: rest)).isSome := isSome_after?_of_readIf (by rw [hr]; rintro ⟨⟩)
    obtain ⟨word, -, ht, rfl, -⟩ := Opening.fits_readIf hr
    rw [ht] at hk ⊢
    exact (ih.append (s := word)).consMalformed hk rfl
  | case6 pos depth bounded c rest _ _ size after hr _ ih =>
    have hk : (k.after? (c :: rest)).isSome := isSome_after?_of_readIf (by rw [hr]; rintro ⟨⟩)
    obtain ⟨word, header, -, -, ht, rfl, -⟩ := Opening.fits_readIf hr
    have htext : c :: rest = (word ++ header ++ ['\x7b']) ++ after := by rw [ht]; simp
    have hlength : word.length + header.length + 1 = (word ++ header ++ ['\x7b']).length := by
      simp [Nat.add_assoc]
    rw [hlength] at ih ⊢
    rw [htext] at hk ⊢
    exact ih.append.consMalformed hk rfl
  | case7 pos depth bounded c rest _ _ lead header body trailer after hr _ bodyStart =>
    rename_i trailerStart ih
    have hk : (k.after? (c :: rest)).isSome := isSome_after?_of_readIf (by rw [hr]; rintro ⟨⟩)
    obtain ⟨word, -, ht, rfl⟩ := Opening.fits_readIf hr
    have hstop : trailerStart + trailer.length = pos + (pieces word header body trailer).length :=
      Block.stop_opened pos word header body trailer
    rw [hstop] at ih ⊢
    rw [ht] at hk ⊢
    exact ih.append.consBlock hk rfl

/-! ## Fragments of a text -/

namespace Fragment.StandsIn

variable {f g : Fragment} {b : Block}

theorem whole (t : Text) : StandsIn t ⟨0, t⟩ := ⟨[], [], by simp, rfl⟩

/-- A fragment of a fragment stands in the text. -/
theorem trans {u v : Text} (hf : f.StandsIn t) (hchars : f.chars = u ++ (g.chars ++ v))
    (hstart : g.start = f.start + u.length) : g.StandsIn t := by
  obtain ⟨front, after, rfl, hfront⟩ := hf
  refine ⟨front ++ u, v ++ after, ?_, ?_⟩
  · rw [hchars]
    simp only [List.append_assoc]
  · rw [hstart, hfront, List.length_append]

theorem keywordAt (hf : f.StandsIn t) (h : KeywordAt k f.chars p) :
    KeywordAt k t (f.start + p) := by
  obtain ⟨front, after, rfl, hfront⟩ := hf
  rw [hfront]
  refine KeywordAt.append ?_ front
  have hp : p ≤ f.chars.length := by
    obtain ⟨c, hc, -⟩ := h.inLine
    exact Nat.le_of_lt (List.getElem?_eq_some_iff.mp hc).1
  obtain ⟨header, hheader⟩ := Option.isSome_iff_exists.mp h
  rw [KeywordAt, List.drop_append_of_le_length hp, Keyword.after?_append_of_some hheader]
  rfl

/-- The place of a block is that of its keyword in the whole text. -/
theorem keywordAt_block (hf : f.StandsIn t) (hb : b ∈ (scanBlocks k f).blocks) :
    KeywordAt k t b.start := by
  obtain ⟨n, hn, hk⟩ := (keyed_scanFrom k f.start 0 true f.chars).blocks b hb
  rw [hn]
  exact hf.keywordAt hk

theorem keywordAt_malformed {m : Malformed} (hf : f.StandsIn t)
    (hm : m ∈ (scanBlocks k f).malformed) : KeywordAt k t m.start := by
  obtain ⟨n, hn, hk⟩ := (keyed_scanFrom k f.start 0 true f.chars).malformed m hm
  rw [hn]
  exact hf.keywordAt hk

theorem parts (hf : f.StandsIn t) (hb : b ∈ (scanBlocks k f).blocks) :
    b.header.StandsIn t ∧ b.body.StandsIn t ∧ b.trailer.StandsIn t := by
  obtain ⟨front, word, header, body, trailer, after, -, hchars, rfl⟩ :=
    (scans_scanFrom k f.start 0 true f.chars).standsIn hb
  refine ⟨?_, ?_, ?_⟩
  · refine hf.trans (u := front ++ word) (v := '\x7b' :: (body ++ '\x7d' :: (trailer ++ after)))
      (by rw [hchars]; simp [pieces, Block.opened]) ?_
    rw [List.length_append, ← Nat.add_assoc]
    rfl
  · refine hf.trans (u := front ++ (word ++ (header ++ ['\x7b'])))
      (v := '\x7d' :: (trailer ++ after)) (by rw [hchars]; simp [pieces, Block.opened]) ?_
    simp only [Block.opened, List.length_append, List.length_cons, List.length_nil]
    omega
  · refine hf.trans (u := front ++ (word ++ (header ++ '\x7b' :: (body ++ ['\x7d'])))) (v := after)
      (by rw [hchars]; simp [pieces, Block.opened]) ?_
    simp only [Block.opened, List.length_append, List.length_cons, List.length_nil]
    omega

theorem body (hf : f.StandsIn t) (hb : b ∈ (scanBlocks k f).blocks) : b.body.StandsIn t :=
  (hf.parts hb).2.1

/-- A line that holes leave is a piece of the text, since a line break parts it from the next. -/
theorem line {holes : List Hole} (hf : f.StandsIn t) (hg : g ∈ linesExcluding f holes) :
    g.StandsIn t := by
  obtain ⟨u, v, hchars, hstart, -⟩ := mem_linesExcluding hg
  exact hf.trans hchars hstart

theorem inLine (hf : f.StandsIn t) (hne : f.chars ≠ []) (hbreak : '\n' ∉ f.chars) :
    InLine t f.start := by
  obtain ⟨front, after, rfl, hstart⟩ := hf
  obtain ⟨c, w, hc⟩ := List.exists_cons_of_ne_nil hne
  refine ⟨c, ?_, ?_⟩
  · rw [hstart, hc, List.getElem?_append_right (Nat.le_refl _), Nat.sub_self]
    rfl
  · rintro rfl
    exact hbreak (hc ▸ List.mem_cons_self)

end Fragment.StandsIn

/-! ## Notes -/

/-- The keyword of the block that an issue is about. -/
def Issue.keyword? : Issue → Option Keyword
  | .malformed k _ => some k
  | .noPattern | .invalidPattern _ _ | .duplicatePath _ => some .path
  | .straySection | .invalidName _ | .noSectionSelector _ => some .section
  | .nestedItems | .duplicateItems | .noItemsSelector => some .items
  | .unclosedComment | .noFieldSelector _ | .notInteger _ | .reservedOption | .unknownLine _ => none

/-- A note stands on a line: at the keyword of the block that it is about, or where the line begins
that it quotes. -/
structure Note.Located (t : Text) (note : Note) : Prop where
  in_line : InLine t note.start
  keyword : ∀ k ∈ note.issue.keyword?, KeywordAt k t note.start
  quoted : ∀ l, note.issue = .unknownLine l →
    ∃ line : Fragment, line.StandsIn t ∧ line.start = note.start ∧ '\n' ∉ line.chars ∧ line.text = l
  no_comment : note.issue ≠ .unclosedComment

theorem KeywordAt.located {issue : Issue} (h : KeywordAt k t p) (hk : issue.keyword? = some k) :
    Note.Located t ⟨p, issue⟩ where
  in_line := h.inLine
  keyword j hj := by
    cases hk.symm.trans hj
    exact h
  quoted l hl := by
    cases (hl : issue = _)
    cases hk
  no_comment hc := by
    cases (hc : issue = _)
    cases hk

theorem InLine.located {issue : Issue} (h : InLine t p) (hk : issue.keyword? = none)
    (hq : ∀ l, issue ≠ .unknownLine l) (hc : issue ≠ .unclosedComment) :
    Note.Located t ⟨p, issue⟩ where
  in_line := h
  keyword j hj := by
    cases hk.symm.trans hj
  quoted l hl := absurd hl (hq l)
  no_comment := hc

/-- What is reported of malformed keywords stands at these. -/
theorem reportMalformed_located {f : Fragment} (hf : f.StandsIn t) (k : Keyword) :
    (reportMalformed k (scanBlocks k f).malformed).Each (Note.Located t) := by
  intro note hn
  obtain ⟨m, hm, rfl⟩ := List.mem_map.mp hn
  exact (hf.keywordAt_malformed hm).located rfl

section

variable (h : InLine t p)
include h

theorem readOptions_located (groups : List Text) :
    (readOptions p groups).Each (Note.Located t) := by
  refine Noted.each_foldlM (fun o part _ => ?_) _
  unfold addOption setOption
  split
  · exact Noted.each_pure o
  · split
    · refine (Noted.each_note ?_).bind fun _ => Noted.each_pure o
      exact h.located rfl nofun nofun
    · split
      · exact Noted.each_pure _
      · split
        · exact Noted.each_pure _
        · refine (Noted.each_note ?_).bind fun _ => Noted.each_pure o
          exact h.located rfl nofun nofun

/-- All that may be wrong with a field is noted at one place of its line. -/
theorem defineField_located (u : Template) (f : Field) (definition : Text) :
    (defineField p u f definition).Each (Note.Located t) := by
  unfold defineField
  refine (readOptions_located h _).bind fun o => ?_
  split
  · exact Noted.each_pure _
  · split
    · refine (Noted.each_note ?_).bind fun _ => Noted.each_pure _
      exact h.located rfl nofun nofun
    · exact Noted.each_pure _

end

/-- A line that says nothing known is quoted from the text as it stands there. -/
theorem addLine_located {line : Fragment} (hl : line.StandsIn t) (hbreak : '\n' ∉ line.chars)
    (u : Template) : (addLine u line).Each (Note.Located t) := by
  unfold addLine
  dsimp only
  split
  · exact Noted.each_pure u
  · rename_i htext
    have hin : InLine t line.start := by
      refine hl.inLine (fun hnil => htext (.inl ?_)) hbreak
      rw [Fragment.text, hnil]
      rfl
    split
    · exact defineField_located hin _ _ _
    · refine (Noted.each_note ⟨hin, ?_, fun l hq => ?_, ?_⟩).bind fun _ => Noted.each_pure u
      · rintro k ⟨⟩
      · cases hq
        exact ⟨line, hl, rfl, hbreak, rfl⟩
      · rintro ⟨⟩

theorem addLines_located {f : Fragment} (hf : f.StandsIn t) (u : Template) (holes : List Hole) :
    (addLines u (linesExcluding f holes)).Each (Note.Located t) := by
  refine Noted.each_foldlM (fun u line hline => addLine_located (hf.line hline) ?_ u) u
  obtain ⟨-, -, -, -, hbreak, -⟩ := mem_linesExcluding hline
  exact hbreak

theorem trailerOptions_located {b : Block} (hk : KeywordAt k t b.start) :
    (trailerOptions b).Each (Note.Located t) := readOptions_located hk.inLine _

/-- Notes about an `items` block stand at keywords or lines inside it. -/
theorem itemTemplate?_located {b : Block} (hk : KeywordAt .items t b.start)
    (hb : b.body.StandsIn t) : (itemTemplate? b).Each (Note.Located t) := by
  unfold itemTemplate?
  split
  · exact (Noted.each_note (hk.located rfl)).bind fun _ => Noted.each_pure _
  · refine (trailerOptions_located hk).bind fun o => .bind ?_ fun _ => ?_
    · intro note hn
      obtain ⟨inner, hi, rfl⟩ := List.mem_map.mp hn
      exact (hb.keywordAt_block hi).located rfl
    · exact (addLines_located hb _ _).bind fun _ => Noted.each_pure _

theorem firstItems_located {blocks : List Block}
    (h : ∀ b ∈ blocks, KeywordAt .items t b.start ∧ b.body.StandsIn t) (found : Option Template) :
    (firstItems found blocks).Each (Note.Located t) := by
  induction blocks generalizing found with
  | nil => exact Noted.each_pure found
  | cons b blocks ih =>
    obtain ⟨hk, hb⟩ := h b List.mem_cons_self
    have ih := ih fun b hb => h b (List.mem_cons_of_mem _ hb)
    cases found with
    | none => exact (itemTemplate?_located hk hb).bind ih
    | some u => exact (Noted.each_note (hk.located rfl)).bind fun _ => ih _

/-- Notes about the body of a section stand at keywords or lines inside it. -/
theorem sectionBody_located {body : Fragment} (hb : body.StandsIn t) (u : Template) :
    (sectionBody u body).Each (Note.Located t) := by
  unfold sectionBody
  refine (reportMalformed_located hb _).bind fun _ => .bind ?_ fun _ => ?_
  · exact firstItems_located (fun i hi => ⟨hb.keywordAt_block hi, hb.body hi⟩) none
  · exact (addLines_located hb _ _).bind fun _ => Noted.each_pure _

theorem section?_located {b : Block} (hk : KeywordAt .section t b.start) (hb : b.body.StandsIn t) :
    (section? b).Each (Note.Located t) := by
  unfold section?
  dsimp only
  split
  · exact (Noted.each_note (hk.located rfl)).bind fun _ => Noted.each_pure _
  · split
    · exact (Noted.each_note (hk.located rfl)).bind fun _ => Noted.each_pure _
    · refine (trailerOptions_located hk).bind fun o => .bind ?_ fun _ => Noted.each_pure _
      exact sectionBody_located hb _

theorem sections_located {f : Fragment} (hf : f.StandsIn t) :
    (sections f).Each (Note.Located t) :=
  (reportMalformed_located hf _).bind fun _ =>
    Noted.each_collect fun _ hb => section?_located (hf.keywordAt_block hb) (hf.body hb)

theorem addScope_located {b : Block} (hk : KeywordAt .path t b.start) (hb : b.body.StandsIn t)
    (scopes : List PathScope) : (addScope scopes b).Each (Note.Located t) := by
  refine Noted.Each.bind ?_ fun _ => Noted.each_pure _
  unfold scope?
  dsimp only
  split
  · exact (Noted.each_note (hk.located rfl)).bind fun _ => Noted.each_pure _
  · split
    · exact (Noted.each_note (hk.located rfl)).bind fun _ => Noted.each_pure _
    · refine (sections_located hb).bind fun rules => ?_
      split
      · exact Noted.each_pure _
      · split
        · exact Noted.each_pure _
        · exact (Noted.each_note (hk.located rfl)).bind fun _ => Noted.each_pure _

/-- Whatever is noted about a text stands where its issue is. -/
theorem scopes_located (t : Text) : (scopes ⟨0, t⟩).Each (Note.Located t) := by
  have hf : Fragment.StandsIn t ⟨0, t⟩ := .whole t
  unfold scopes
  refine (reportMalformed_located hf _).bind fun _ => ?_
  split
  · exact (sections_located hf).bind fun _ => Noted.each_pure _
  · refine Noted.Each.bind (fun note hn => ?_) fun _ => ?_
    · obtain ⟨b, hb, rfl⟩ := List.mem_map.mp hn
      exact (hf.keywordAt_block hb).located rfl
    · exact Noted.each_foldlM
        (fun scopes b hb => addScope_located (hf.keywordAt_block hb) (hf.body hb) scopes) []

/-! ## Lines of a text -/

/-- A fragment without a line break stands on the line that its position is on. -/
theorem Fragment.StandsIn.exists_line {f : Fragment} (hf : f.StandsIn t) (hbreak : '\n' ∉ f.chars) :
    ∃ w, (Text.lines t)[lineOf t f.start - 1]? = some (lineBefore t f.start ++ (f.chars ++ w)) := by
  obtain ⟨front, after, rfl, hstart⟩ := hf
  have hfree : ∀ c ∈ f.chars, (c == '\n') = false := Text.beq_eq_false_of_mem hbreak
  have hcount : (front ++ f.chars).countP (· == '\n') = front.countP (· == '\n') := by
    rw [List.countP_append, Nat.add_eq_left, List.countP_eq_zero]
    intro c hc
    rw [hfree c hc]
    exact Bool.false_ne_true
  obtain ⟨w, hw⟩ := Text.exists_getElem?_splitOn (· == '\n') (front ++ f.chars) after
  rw [Text.afterLast_append hfree, hcount, List.append_assoc, List.append_assoc] at hw
  refine ⟨w, ?_⟩
  rw [hstart, lineOf, lineBefore, List.take_left, Nat.add_sub_cancel]
  exact hw

/-- A place in a line has a line with its number, which is not empty. -/
theorem InLine.exists_line (h : InLine t p) :
    ∃ line, (Text.lines t)[lineOf t p - 1]? = some line ∧ line ≠ [] := by
  obtain ⟨c, hc, hbreak⟩ := h
  have hlt : p < t.length := (List.getElem?_eq_some_iff.mp hc).1
  have hdrop : t.drop p = c :: t.drop (p + 1) := drop_eq_cons_iff.mpr ⟨hc, rfl⟩
  have hf : Fragment.StandsIn t ⟨p, [c]⟩ := by
    refine ⟨t.take p, t.drop (p + 1), ?_, (List.length_take_of_le hlt.le).symm⟩
    rw [List.singleton_append, ← hdrop, List.take_append_drop]
  obtain ⟨w, hw⟩ := hf.exists_line (by simpa using Ne.symm hbreak)
  exact ⟨_, hw, by simp⟩

/-! ## Diagnostics -/

/-- The kinds of issues that are about a block: each is reported at the keyword of the block. -/
def Kind.ofBlocks : List Kind :=
  [.unmatchedBrace, .strayContent, .invalidPathPattern, .duplicatePath, .invalidName,
    .duplicateItems, .nestedItems]

theorem Issue.exists_keyword {issue : Issue} (h : issue.kind ∈ Kind.ofBlocks) :
    ∃ k, issue.keyword? = some k := by
  cases issue with
  | unclosedComment | noSectionSelector | noItemsSelector | noFieldSelector | notInteger
    | reservedOption | unknownLine => simp [kind, Kind.ofBlocks] at h
  | malformed k => exact ⟨k, rfl⟩
  | noPattern | invalidPattern | duplicatePath => exact ⟨.path, rfl⟩
  | invalidName | straySection => exact ⟨.section, rfl⟩
  | nestedItems | duplicateItems => exact ⟨.items, rfl⟩

/-- A line of a text whose comments are `cs` holds the keyword, in any letter case and outside all
comments; in the normal form its colon follows. -/
def KeywordOnLine (raw : Text) (cs : List Comment) (k : Keyword) (n : Nat) : Prop :=
  ∃ p name w, lineOf (unified raw) p = n ∧ Text.lower name = k.name ∧
    (Text.lines (unified raw))[n - 1]? = some (lineBefore (unified raw) p ++ (name ++ w)) ∧
    (∀ q, p ≤ q → q < p + name.length → ∀ c ∈ cs, ¬ c.covers (unified raw) q) ∧
    KeywordAt k (normalize raw).text p

/-- The line of a diagnostic is one of the text, and it holds what the diagnostic is about. The
comments of the text are `cs`. -/
structure PointsAt (raw : Text) (cs : List Comment) (d : Diagnostic) : Prop where
  one_le : 1 ≤ d.line
  le_length : d.line ≤ (Text.lines (unified raw)).length
  not_empty : ∃ line, (Text.lines (unified raw))[d.line - 1]? = some line ∧ line ≠ []
  quoted : ∀ l, d.issue = .unknownLine l →
    ∃ line, (Text.lines (normalize raw).text)[d.line - 1]? = some line ∧ l <:+: line
  keyword : d.issue.kind ∈ Kind.ofBlocks →
    ∃ k, d.issue.keyword? = some k ∧ KeywordOnLine raw cs k d.line
  comment : d.issue = .unclosedComment →
    ∃ c, cs.getLast? = some c ∧ c.close? = none ∧ PairAt '/' '*' (unified raw) c.start ∧
      lineOf (unified raw) c.start = d.line

theorem length_of_getElem? {α : Type} {l : List α} {a : α} {n : Nat} (hn : 1 ≤ n)
    (h : l[n - 1]? = some a) : n ≤ l.length := by
  have := (List.getElem?_eq_some_iff.mp h).1
  omega

section

variable {u : Text} {cs : List Comment}

theorem InLine.of_blanked (h : InLine (blanked cs u) p) : InLine u p := by
  obtain ⟨c, hc, hbreak⟩ := h
  rw [getElem?_blanked] at hc
  obtain ⟨a, ha, hac⟩ := Option.map_eq_some_iff.mp hc
  refine ⟨a, ha, ?_⟩
  rintro rfl
  apply hbreak
  rw [← hac]
  split
  · rfl
  · rfl

/-- The letters of a keyword are no blanks of a comment. -/
theorem KeywordAt.of_blanked (h : KeywordAt k (blanked cs u) p) :
    ∃ name rest, u.drop p = name ++ rest ∧ Text.lower name = k.name ∧
      ∀ q, p ≤ q → q < p + name.length → ∀ c ∈ cs, ¬ c.covers u q := by
  obtain ⟨header, hheader⟩ := Option.isSome_iff_exists.mp h
  obtain ⟨name, gap, hdrop, hname, -⟩ := Keyword.after?_eq_some_iff.mp hheader
  have hletter {n : Nat} (hn : n < name.length) :
      u[p + n]? = name[n]? ∧ ∀ c ∈ cs, ¬ c.covers u (p + n) := by
    have hchar : (blanked cs u)[p + n]? = some name[n] := by
      rw [← List.getElem?_drop, hdrop, List.getElem?_append_left hn, List.getElem?_eq_getElem hn]
    have hmem : name[n].toLower ∈ k.name := hname ▸ List.mem_map_of_mem (List.getElem_mem hn)
    rw [List.getElem?_eq_getElem hn]
    refine getElem?_of_blanked ?_ ?_ hchar
    · intro hs
      rw [hs] at hmem
      exact absurd hmem (by cases k <;> decide)
    · intro hs
      rw [hs] at hmem
      exact absurd hmem (by cases k <;> decide)
  refine ⟨name, (u.drop p).drop name.length, ?_, hname, fun q hpq hq => ?_⟩
  · have htake : (u.drop p).take name.length = name := by
      apply List.ext_getElem?
      intro n
      rw [List.getElem?_take]
      split
      · rename_i hn
        rw [List.getElem?_drop]
        exact (hletter hn).1
      · rename_i hn
        exact (List.getElem?_eq_none (Nat.le_of_not_lt hn)).symm
    conv_lhs => rw [← List.take_append_drop name.length (u.drop p), htake]
  · obtain ⟨n, rfl⟩ := Nat.exists_eq_add_of_le hpq
    exact (hletter (Nat.lt_of_add_lt_add_left hq)).2

end

section

variable {raw : Text} {cs : List Comment} {note : Note}
  (htext : (normalize raw).text = blanked cs (unified raw))
include htext

/-- A keyword of the normal form stands in the raw text on the same line, and outside of
comments. -/
theorem keywordOnLine_of_keywordAt (h : KeywordAt k (normalize raw).text p) :
    KeywordOnLine raw cs k (lineOf (normalize raw).text p) := by
  have hat := h
  rw [htext] at hat
  obtain ⟨name, rest, hdrop, hname, houtside⟩ := hat.of_blanked
  have hlt : p < (unified raw).length := by
    obtain ⟨c, hc, -⟩ := hat.inLine.of_blanked
    exact (List.getElem?_eq_some_iff.mp hc).1
  have hf : Fragment.StandsIn (unified raw) ⟨p, name⟩ := by
    refine ⟨(unified raw).take p, rest, ?_, (List.length_take_of_le hlt.le).symm⟩
    rw [← hdrop, List.take_append_drop]
  have hbreak : '\n' ∉ name := by
    intro hm
    have hlower : '\n'.toLower ∈ k.name := hname ▸ List.mem_map_of_mem hm
    exact absurd hlower (by cases k <;> decide)
  obtain ⟨w, hw⟩ := hf.exists_line hbreak
  have hline : lineOf (normalize raw).text p = lineOf (unified raw) p := by
    rw [htext, lineOf_blanked]
  rw [hline]
  exact ⟨p, name, w, rfl, hname, hw, houtside, h⟩

/-- What is said of a note in the normal form holds of its diagnostic in the text itself. -/
theorem Note.Located.pointsAt (h : note.Located (normalize raw).text) :
    PointsAt raw cs (note.inText (normalize raw).text) := by
  have hline : lineOf (normalize raw).text note.start = lineOf (unified raw) note.start := by
    rw [htext, lineOf_blanked]
  have hin : InLine (unified raw) note.start := (htext ▸ h.in_line).of_blanked
  obtain ⟨line, hget, hne⟩ := hin.exists_line
  rw [← hline] at hget
  have hone : 1 ≤ (note.inText (normalize raw).text).line := Nat.le_add_left ..
  refine ⟨hone, length_of_getElem? hone hget, ⟨line, hget, hne⟩, fun l hl => ?_, fun hkind => ?_,
    fun hc => absurd hc h.no_comment⟩
  · obtain ⟨f, hf, hstart, hbreak, rfl⟩ := h.quoted l hl
    obtain ⟨w, hw⟩ := hf.exists_line hbreak
    rw [hstart] at hw
    refine ⟨_, hw, (Text.trim_isInfix f.chars).trans ?_⟩
    rw [← List.append_assoc]
    exact List.infix_append ..
  · obtain ⟨k, hk⟩ := Issue.exists_keyword hkind
    exact ⟨k, hk, keywordOnLine_of_keywordAt htext (h.keyword k hk)⟩

end

/-- Every diagnostic of every text names a line of the text, counted with the comments in place, and
that line holds what the diagnostic is about: the words it quotes, the keyword of its block outside
all comments, or the opening of the comment that nothing closes. -/
theorem diagnostics_pointsAt (raw : Text) :
    ∃ cs, AreComments (unified raw) cs ∧
      ∀ d ∈ (compile raw).diagnostics, PointsAt raw cs d := by
  obtain ⟨cs, hcs, htext, hunclosed⟩ := normalize_blanks raw
  refine ⟨cs, hcs, fun d hd => ?_⟩
  rw [diagnostics_compile, List.mem_append] at hd
  rcases hd with hd | hd
  · obtain ⟨n, hn, rfl⟩ := Option.map_eq_some_iff.mp (Option.mem_toList.mp hd)
    obtain ⟨c, hc, hclose, rfl⟩ := (hunclosed n).mp hn
    have hpair := ((hcs.starts c.start).mp ⟨c, List.mem_of_getLast? hc, rfl⟩).pair
    have hin : InLine (unified raw) c.start := ⟨'/', hpair.1, by decide⟩
    obtain ⟨line, hget, hne⟩ := hin.exists_line
    have hone : 1 ≤ lineOf (unified raw) c.start := Nat.le_add_left ..
    have hkind : Issue.unclosedComment.kind ∉ Kind.ofBlocks := by decide
    exact ⟨hone, length_of_getElem? hone hget, ⟨line, hget, hne⟩, nofun, fun h => absurd h hkind,
      fun _ => ⟨c, hc, hclose, hpair, rfl⟩⟩
  · obtain ⟨note, hnote, rfl⟩ := List.mem_map.mp hd
    exact (scopes_located _ note hnote).pointsAt htext

/-- A text with comments of several lines in front of what is skipped. -/
def commentedText : Text :=
  ("/* two\nlines */ section: s .s \x7b\n /* é\n */ color red\n\x7d\n" ++
    "path: /x\n/* open").toList

/-- Its diagnostics are on the lines that these comments leave. -/
theorem diagnostics_pointsAt_commentedText :
    (compile commentedText).diagnostics =
        [⟨7, .unclosedComment⟩, ⟨6, .malformed .path .noBrace⟩,
          ⟨4, .unknownLine "color red".toList⟩] ∧
      ∃ cs, AreComments (unified commentedText) cs ∧
        ∀ d ∈ (compile commentedText).diagnostics, PointsAt commentedText cs d := by
  refine ⟨?_, diagnostics_pointsAt commentedText⟩
  decide +kernel

end PageRules.RuleText
