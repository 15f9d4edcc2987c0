import Mathlib
import PageRules.Proofs.RuleText.Joined
import PageRules.Proofs.RuleText.Resume
import PageRules.Proofs.RuleText.Scopes
import PageRules.Proofs.RuleText.Shift

/-!
# Compiling joined texts

Rule texts compose. Where a text closes what it opens, a scan reads it as if nothing followed, and
then reads the lines after it as if nothing stood before (`scanFrom_append_line`). So the rules and
the notes of both texts are those of each (`compile_append_line`).
-/

namespace PageRules.RuleText

variable {k : Keyword} {s t : Text}

/-! ## Scans -/

theorem scanBlocks_append_line {pos : Nat} (hd : braceDepth? 0 t = some 0)
    (hg : GroupsEnd t ('\n' :: s)) (k : Keyword) :
    scanBlocks k ⟨pos, t ++ '\n' :: s⟩ =
      scanBlocks k ⟨pos, t⟩ ++ scanBlocks k ⟨pos + t.length + 1, s⟩ :=
  scanFrom_append_line hd (Nat.le_refl 0) hg

/-! ## Sections -/

/-- A run makes what two others make, and notes, in some order, what they note. -/
structure Noted.Joins {α : Type} (x y z : Noted (List α)) : Prop where
  value : z.value = x.value ++ y.value
  notes : z.notes.Perm (x.notes ++ y.notes)

theorem perm_append_append {α : Type} (l m l' m' : List α) :
    (l ++ m ++ (l' ++ m')).Perm ((l ++ l') ++ (m ++ m')) := by
  rw [List.append_assoc, List.append_assoc]
  exact (List.perm_append_comm_assoc ..).append_left l

theorem notes_reportMalformed_append (l m : List Malformed) :
    (reportMalformed k (l ++ m)).notes =
      (reportMalformed k l).notes ++ (reportMalformed k m).notes :=
  List.map_append

theorem sections_joins {f g h : Fragment}
    (hs : scanBlocks .section h = scanBlocks .section f ++ scanBlocks .section g) :
    (sections f).Joins (sections g) (sections h) := by
  constructor
  · rw [value_sections, hs, Scan.blocks_append, List.filterMap_append, ← value_sections,
      ← value_sections]
  · rw [notes_sections, hs, Scan.blocks_append, Scan.malformed_append, List.flatMap_append,
      notes_reportMalformed_append, notes_sections, notes_sections]
    exact perm_append_append ..

/-! ## Scopes -/

/-- The pattern is none of the scopes'. -/
def PathScope.isNew (known : List PathScope) (s : PathScope) : Bool :=
  known.all (·.pattern != s.pattern)

theorem isNew_of_pattern (known : List PathScope) {s : PathScope} {pattern : Text}
    (h : s.pattern = pattern) :
    PathScope.isNew known s = !known.any (·.pattern == pattern) := by
  subst h
  rw [PathScope.isNew, List.not_any_eq_all_not]
  rfl

theorem value_scope?_append (known scopes : List PathScope) (b : Block) :
    (scope? (known ++ scopes.filter (PathScope.isNew known)) b).value =
      (scope? scopes b).value.filter (PathScope.isNew known) := by
  rw [value_scope?, value_scope? scopes, List.any_append, List.any_filter]
  cases hb : (scope? [] b).value with
  | none => simp
  | some s =>
    have hs := isNew_of_pattern known (scope?_eq_some hb).1
    by_cases hk : known.any (·.pattern == b.header.text) = true
    · rw [hk, Bool.true_or, if_pos rfl]
      split
      · rfl
      · rw [Option.filter_some, hs, hk]
        rfl
    · rw [Bool.not_eq_true] at hk
      have hold (r : PathScope) :
          (PathScope.isNew known r && r.pattern == b.header.text) =
            (r.pattern == b.header.text) := by
        by_cases hr : r.pattern = b.header.text
        · rw [isNew_of_pattern known hr, hk]
          rfl
        · simp [hr]
      simp only [hk, hold, Bool.false_or]
      split
      · rfl
      · rw [Option.filter_some, hs, hk]
        rfl

/-- Blocks add to known scopes what they make alone, less the patterns known. -/
theorem value_foldlM_addScope (known : List PathScope) (blocks : List Block)
    (scopes : List PathScope) :
    (blocks.foldlM addScope (known ++ scopes.filter (PathScope.isNew known))).value =
      known ++ (blocks.foldlM addScope scopes).value.filter (PathScope.isNew known) := by
  induction blocks generalizing scopes with
  | nil => rfl
  | cons b blocks ih =>
    have hstep : (addScope (known ++ scopes.filter (PathScope.isNew known)) b).value =
        known ++ (addScope scopes b).value.filter (PathScope.isNew known) := by
      rw [value_addScope, value_addScope, List.filter_append, List.append_assoc,
        value_scope?_append, Option.toList_filter]
    rw [List.foldlM_cons, List.foldlM_cons, Noted.value_bind, Noted.value_bind, hstep]
    exact ih _

/-! ## Texts -/

section

variable {f g h : Fragment}
  (hscan : ∀ k, scanBlocks k h = scanBlocks k f ++ scanBlocks k g)
include hscan

theorem scopes_append_of_no_path (hf : (scanBlocks .path f).blocks = [])
    (hg : (scanBlocks .path g).blocks = []) :
    (scopes h).value = [.catchAll ((sections f).value ++ (sections g).value)] ∧
      (scopes h).notes.Perm ((scopes f).notes ++ (scopes g).notes) := by
  have hh : (scanBlocks .path h).blocks = [] := by
    rw [hscan, Scan.blocks_append, hf, hg]
    rfl
  have hsections := sections_joins (hscan .section)
  constructor
  · rw [value_scopes_of_no_path hh, hsections.value]
  · rw [notes_scopes_of_no_path hh, notes_scopes_of_no_path hf, notes_scopes_of_no_path hg, hscan,
      Scan.malformed_append, notes_reportMalformed_append]
    exact (hsections.notes.append_left _).trans (perm_append_append ..)

theorem scopes_append_of_paths (hf : (scanBlocks .path f).blocks ≠ [])
    (hg : (scanBlocks .path g).blocks ≠ []) :
    (scopes h).value =
      (scopes f).value ++ (scopes g).value.filter (PathScope.isNew (scopes f).value) := by
  have hh : (scanBlocks .path h).blocks ≠ [] := by
    rw [hscan, Scan.blocks_append]
    exact List.append_ne_nil_of_left_ne_nil hf _
  have hmore := value_foldlM_addScope ((scanBlocks .path f).blocks.foldlM addScope []).value
    (scanBlocks .path g).blocks []
  rw [List.filter_nil, List.append_nil] at hmore
  rw [value_scopes_of_paths hh, value_scopes_of_paths hf, value_scopes_of_paths hg, hscan,
    Scan.blocks_append, List.foldlM_append, Noted.value_bind, hmore]

end

/-! ## Compilations -/

/-- The text closes its comments and its braces. -/
@[mk_iff] structure SelfContained (raw : Text) : Prop extends LineFeeds raw where
  comments_closed : (normalize raw).unclosed = none
  braces_closed : braceDepth? 0 (normalize raw).text = some 0

instance (raw : Text) : Decidable (SelfContained raw) :=
  decidable_of_iff _ (selfContained_iff raw).symm

/-- The same issue `n` lines further down. -/
def Diagnostic.shift (n : Nat) (d : Diagnostic) : Diagnostic := { d with line := d.line + n }

theorem inText_append {note : Note} (h : note.start ≤ s.length) (t : Text) :
    note.inText (s ++ t) = note.inText s := by
  rw [Note.inText, Note.inText, lineOf_append_of_le h]

theorem inText_shift (s t : Text) (note : Note) :
    (note.shift (s.length + 1)).inText (s ++ '\n' :: t) = (note.inText t).shift (lineCount s) :=
  congrArg (Diagnostic.mk · note.issue) (lineOf_append_line ..)

/-- Notes on two texts where these are joined. -/
theorem map_inText_joined {α : Type} {x y : Noted α} (hx : x.Within 0 s.length) (t : Text) :
    (x.notes ++ (y.shift (s.length + 1)).notes).map (·.inText (s ++ '\n' :: t)) =
      x.notes.map (·.inText s) ++ (y.notes.map (·.inText t)).map (.shift (lineCount s)) := by
  rw [List.map_append, Noted.shift, List.map_map, List.map_map]
  congr 1
  · exact List.map_congr_left fun note hn => inText_append (hx note hn).2 _
  · exact List.map_congr_left fun note _ => inText_shift s t note

/-- The brackets of a text end in it where no line that opens with a bracket follows. -/
theorem groupsEnd_line (hs : '[' ∉ Text.afterLast (· == ']') s)
    (ht : '[' ∉ (t.dropWhile Text.isSpace).head?) : GroupsEnd s ('\n' :: t) :=
  groupsEnd_of_closed (group?_newline (group?_eq_none ht)) fun _ => hs

theorem pageType?_append_line (s t : Text) :
    pageType? (s ++ '\n' :: t) = (pageType? s).or (pageType? t) := by
  rw [pageType?, Text.lines, Text.splitOn_append_cons rfl, List.findSome?_append]
  rfl

theorem pathBlocks_shift (n : Nat) (t : Text) :
    (scanBlocks .path ((normalFragment t).shift n)).blocks = [] ↔ pathBlocks t = [] := by
  rw [scanBlocks_shift, Scan.blocks_shift, List.map_eq_nil_iff]
  rfl

section

variable (hs : SelfContained s)
include hs

/-- The normal form of joined texts, the first of which is self-contained. -/
theorem SelfContained.normalize_append_line (t : Text) :
    (normalize (s ++ '\n' :: t)).text = (normalize s).text ++ '\n' :: (normalize t).text ∧
      (normalize (s ++ '\n' :: t)).unclosed = (normalize t).unclosed.map (· + lineCount s) := by
  rw [RuleText.normalize_append_line hs.toLineFeeds hs.comments_closed, Normal.prepend_eq]
  exact ⟨List.append_assoc .., rfl⟩

theorem SelfContained.lineCount_normalize : lineCount (normalize s).text = lineCount s := by
  rw [lineCount, count_normalize, hs.unified_eq, lineCount]

theorem scanBlocks_joined (hg : GroupsEnd (normalize s).text ('\n' :: (normalize t).text))
    (k : Keyword) :
    scanBlocks k (normalFragment (s ++ '\n' :: t)) = scanBlocks k (normalFragment s) ++
      scanBlocks k ((normalFragment t).shift ((normalize s).text.length + 1)) := by
  rw [normalFragment, (hs.normalize_append_line t).1, scanBlocks_append_line hs.braces_closed hg,
    Nat.add_assoc]
  rfl

/-- The notes on joined texts are diagnosed as those on each of them. -/
theorem diagnostics_joined
    (hnotes : (scopes (normalFragment (s ++ '\n' :: t))).notes.Perm
      ((scopes (normalFragment s)).notes ++
        ((scopes (normalFragment t)).shift ((normalize s).text.length + 1)).notes)) :
    (compile (s ++ '\n' :: t)).diagnostics.Perm
      ((compile s).diagnostics ++ (compile t).diagnostics.map (.shift (lineCount s))) := by
  obtain ⟨htext, hunclosed⟩ := hs.normalize_append_line t
  have hwithin : (scopes (normalFragment s)).Within 0 (normalize s).text.length := by
    simpa [Fragment.stop, normalFragment] using scopes_within (normalFragment s)
  have hmap := hnotes.map (·.inText (normalize (s ++ '\n' :: t)).text)
  rw [htext, map_inText_joined hwithin, hs.lineCount_normalize, ← htext] at hmap
  have hcomment (line? : Option Nat) :
      ((line?.map (· + lineCount s)).map fun line =>
          (⟨line, .unclosedComment⟩ : Diagnostic)).toList =
        (line?.map fun line => ⟨line, .unclosedComment⟩).toList.map (.shift (lineCount s)) := by
    cases line? <;> rfl
  rw [diagnostics_compile, diagnostics_compile t, hunclosed, hcomment,
    diagnostics_of_closed hs.comments_closed, List.map_append]
  exact (hmap.append_left _).trans (List.perm_append_comm_assoc ..)

theorem pageType_append_line :
    (compile (s ++ '\n' :: t)).pageType = (compile s).pageType.or (compile t).pageType := by
  have htype : (compile (s ++ '\n' :: t)).pageType =
      pageType? ((normalize s).text ++ '\n' :: (normalize t).text) :=
    congrArg pageType? (hs.normalize_append_line t).1
  rw [htype, pageType?_append_line]
  rfl

variable (hclosed : '[' ∉ Text.afterLast (· == ']') (normalize s).text)
  (hnext : '[' ∉ ((normalize t).text.dropWhile Text.isSpace).head?)
include hclosed hnext

/-- Joined texts without path blocks. -/
theorem append_line_of_no_path (hps : pathBlocks s = []) (hpt : pathBlocks t = []) :
    (compile (s ++ '\n' :: t)).scopes = [.catchAll ((compile s).rules ++ (compile t).rules)] ∧
      (compile (s ++ '\n' :: t)).diagnostics.Perm
        ((compile s).diagnostics ++ (compile t).diagnostics.map (.shift (lineCount s))) := by
  have hscan (k : Keyword) := scanBlocks_joined hs (groupsEnd_line hclosed hnext) k
  obtain ⟨hvalue, hnotes⟩ := scopes_append_of_no_path hscan hps ((pathBlocks_shift ..).mpr hpt)
  rw [sections_shift] at hvalue
  rw [scopes_shift] at hnotes
  refine ⟨?_, diagnostics_joined hs hnotes⟩
  rw [rules_of_no_path hps, rules_of_no_path hpt]
  exact hvalue

/-- Joined texts with path blocks. -/
theorem append_line_of_paths (hps : pathBlocks s ≠ []) (hpt : pathBlocks t ≠ []) :
    (compile (s ++ '\n' :: t)).scopes =
      (compile s).scopes ++ (compile t).scopes.filter (PathScope.isNew (compile s).scopes) := by
  have hscan (k : Keyword) := scanBlocks_joined hs (groupsEnd_line hclosed hnext) k
  have hvalue := scopes_append_of_paths hscan hps (mt (pathBlocks_shift ..).mp hpt)
  rw [scopes_shift] at hvalue
  exact hvalue

end

/-- The texts joined by a line feed compile to what each compiles to, where the first closes its
comments, braces and brackets and the second does not go on with option groups. -/
theorem compile_append_line {s t : Text} (hs : SelfContained s)
    (hclosed : '[' ∉ Text.afterLast (· == ']') (normalize s).text)
    (hnext : '[' ∉ ((normalize t).text.dropWhile Text.isSpace).head?) :
    (compile (s ++ '\n' :: t)).pageType = (compile s).pageType.or (compile t).pageType ∧
      (pathBlocks s = [] → pathBlocks t = [] →
        (compile (s ++ '\n' :: t)).scopes =
            [.catchAll ((compile s).rules ++ (compile t).rules)] ∧
          (compile (s ++ '\n' :: t)).diagnostics.Perm
            ((compile s).diagnostics ++ (compile t).diagnostics.map (.shift (lineCount s)))) ∧
      (pathBlocks s ≠ [] → pathBlocks t ≠ [] →
        (compile (s ++ '\n' :: t)).scopes =
          (compile s).scopes ++
            (compile t).scopes.filter (PathScope.isNew (compile s).scopes)) :=
  ⟨pageType_append_line hs, append_line_of_no_path hs hclosed hnext,
    append_line_of_paths hs hclosed hnext⟩

/-- A text of a section with options, and a comment. -/
def listText : Text :=
  "page-type: list\nsection: a .a \x7b\n text: b\n\x7d [limit: 2] /* \x7b */".toList

/-- A text of a section, and one that is cut off. -/
def cutText : Text := "section: c .c \x7b \x7d\nsection: d .d \x7b".toList

/-- A text of one path block. -/
def pathText : Text := "path: /x \x7b\nsection: a .a \x7b \x7d\n\x7d".toList

/-- A text of two path blocks. -/
def morePathsText : Text :=
  "path: /x \x7b section: b .b \x7b \x7d \x7d\npath: /y \x7b section: c .c \x7b \x7d \x7d".toList

theorem compile_append_line_cutText :
    ((SelfContained listText ∧ pathBlocks listText = [] ∧ pathBlocks cutText = []) ∧
      (compile (listText ++ '\n' :: cutText)).pageType = some "list".toList ∧
      (compile (listText ++ '\n' :: cutText)).scopes =
        [.catchAll ((compile listText).rules ++ (compile cutText).rules)] ∧
      (compile (listText ++ '\n' :: cutText)).diagnostics =
        [⟨6, .malformed .section .unmatchedBrace⟩]) ∧
    (SelfContained pathText ∧ pathBlocks pathText ≠ [] ∧ pathBlocks morePathsText ≠ []) ∧
      (compile (pathText ++ '\n' :: morePathsText)).scopes.map
          (fun scope => (scope.pattern, scope.rules.map (·.name))) =
        [("/x".toList, [['a']]), ("/y".toList, [['c']])] := by
  have hs : SelfContained listText := by decide +kernel
  have hps : pathBlocks listText = [] := by decide +kernel
  have hpt : pathBlocks cutText = [] := by decide +kernel
  obtain ⟨htype, hall, -⟩ := compile_append_line (t := cutText) hs (by decide +kernel)
    (by decide +kernel)
  obtain ⟨hscopes, hdiagnostics⟩ := hall hps hpt
  have hlist : (compile listText).diagnostics = [] := by decide +kernel
  have hcut : (compile cutText).diagnostics = [⟨2, .malformed .section .unmatchedBrace⟩] := by
    decide +kernel
  have hx : SelfContained pathText := by decide +kernel
  have hpx : pathBlocks pathText ≠ [] := by decide +kernel
  have hpy : pathBlocks morePathsText ≠ [] := by decide +kernel
  obtain ⟨-, -, hpaths⟩ := compile_append_line (t := morePathsText) hx (by decide +kernel)
    (by decide +kernel)
  refine ⟨⟨⟨hs, hps, hpt⟩, ?_, hscopes, ?_⟩, ⟨hx, hpx, hpy⟩, ?_⟩
  · rw [htype]
    decide +kernel
  · rw [hlist, hcut] at hdiagnostics
    exact hdiagnostics.eq_singleton
  · rw [hpaths hpx hpy]
    decide +kernel

end PageRules.RuleText
