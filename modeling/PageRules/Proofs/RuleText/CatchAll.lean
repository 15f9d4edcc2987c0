import Mathlib
import PageRules.Proofs.RuleText.Compose
import PageRules.Proofs.RuleText.RoundTrip

/-!
# Rules for every path

Sections that stand in no path block apply to every path. Inside a block for every path they are
read the same, although there another part of the compiler reads them, and at other positions
(`select_catchAllText`).
-/

namespace PageRules

namespace PathScope

theorem select_catchAll (rules : List Rule) (path : Text) :
    select [.catchAll rules] path = rules := by
  have hp : ((catchAll rules).pattern == catchAllPattern) = true := rfl
  have hmatch : (catchAll rules).matchesPath path = true := by
    rw [matchesPath, hp]
    rfl
  rw [select, List.find?_cons, hmatch]
  rfl

end PathScope

namespace RuleText

variable {k : Keyword} {t : Text}

/-- The first line of a block for every path. -/
def catchAllHead : Text := "path: /** \x7b".toList

/-- What stands between the colon and the brace of that line. -/
def catchAllHeader : Text := " /** ".toList

theorem catchAllHead_eq :
    catchAllHead = Keyword.path.name ++ ':' :: (catchAllHeader ++ ['\x7b']) := by decide

/-- A text inside a block for every path. -/
def catchAllText (t : Text) : Text := catchAllHead ++ '\n' :: (t ++ '\n' :: ['\x7d'])

/-- The block of such a text. -/
def catchAllBlock (t : Text) : Block := .opened 0 5 catchAllHeader ('\n' :: (t ++ ['\n'])) []

theorem normalize_catchAllText (ht : SelfContained t) :
    (normalize (catchAllText t)).text = catchAllText (normalize t).text := by
  have hhead : normalize catchAllHead = ⟨catchAllHead, none⟩ := by decide +kernel
  have hlines : LineFeeds catchAllHead := by decide +kernel
  rw [catchAllText, normalize_append_line hlines (by rw [hhead]), Normal.prepend_eq, hhead,
    Normal.later, (ht.normalize_append_line _).1]
  rfl

/-- The scan for paths finds the block and nothing else. -/
theorem scanBlocks_catchAllText (ht : braceDepth? 0 t = some 0) :
    scanBlocks .path ⟨0, catchAllText t⟩ = { blocks := [catchAllBlock t] } := by
  have hdepth : braceDepth? 0 ('\n' :: (t ++ ['\n'])) = some 0 := by
    rw [braceDepth?_cons (by decide) (by decide), braceDepth?_append, ht]
    rfl
  have hbody : body? 0 ('\n' :: (t ++ ['\n']) ++ ['\x7d']) = some ('\n' :: (t ++ ['\n']), []) :=
    body?_of_braceDepth_eq hdepth []
  have htext : catchAllText t =
      Keyword.path.name ++ ':' ::
        (catchAllHeader ++ '\x7b' :: ('\n' :: (t ++ ['\n']) ++ ['\x7d'])) := by
    rw [catchAllText, catchAllHead_eq]
    simp
  have hread : Opening.read .path (catchAllText t) =
      .block 5 catchAllHeader ('\n' :: (t ++ ['\n'])) [] [] := by
    rw [htext, Opening.read, Keyword.after?_name]
    dsimp only
    rw [header?_append (by decide) (by decide) (by decide)]
    dsimp only
    rw [hbody]
    dsimp only
    rw [optionRun_of_none rfl]
    congr 1
    rw [List.length_append, List.length_cons, show Keyword.path.name.length = 4 from rfl]
    omega
  rw [scanBlocks]
  dsimp only
  rw [show catchAllText t = 'p' :: (catchAllText t).tail from rfl] at hread ⊢
  rw [scanFrom_cons_block (by decide) (by decide) hread, scanFrom_nil]
  rfl

/-- The body of the block has the rules of the text. -/
theorem value_sections_catchAllBlock (ht : braceDepth? 0 t = some 0) :
    (sections (catchAllBlock t).body).value = (sections ⟨0, t⟩).value := by
  have hg : GroupsEnd t ['\n'] := groupsEnd_of_closed rfl (by simp)
  have hscan : scanBlocks .section (catchAllBlock t).body =
      scanBlocks .section ((⟨0, t⟩ : Fragment).shift ((catchAllBlock t).body.start + 1)) := by
    have hnewline : scanBlocks .section (catchAllBlock t).body =
        scanBlocks .section ⟨(catchAllBlock t).body.start + 1, t ++ ['\n']⟩ := scanFrom_newline ..
    have hnil (pos : Nat) : scanBlocks .section ⟨pos, []⟩ = {} := scanFrom_nil ..
    rw [hnewline, scanBlocks_append_line ht hg, hnil, Fragment.shift, Nat.zero_add]
    exact congrArg₂ Scan.mk (List.append_nil _) (List.append_nil _)
  rw [value_sections, hscan, ← value_sections, sections_shift]
  rfl

theorem of_catchAllPattern (rules : List Rule) :
    PathScope.of catchAllPattern rules = .ok (.catchAll rules) :=
  pathScope_of (s := .catchAll rules)

theorem text_catchAllHeader (t : Text) : (catchAllBlock t).header.text = catchAllPattern := by
  have htrim : Text.trim catchAllHeader = catchAllPattern := by decide
  exact htrim

/-- Without a section the block makes no scope. -/
theorem value_scope?_catchAllBlock (ht : braceDepth? 0 t = some 0) :
    (scope? [] (catchAllBlock t)).value =
      if (sections ⟨0, t⟩).value.isEmpty then none
      else some (.catchAll (sections ⟨0, t⟩).value) := by
  unfold scope?
  dsimp only
  rw [text_catchAllHeader, if_neg (by decide), List.any_nil, if_neg Bool.false_ne_true,
    Noted.value_bind, value_sections_catchAllBlock ht, of_catchAllPattern]
  split <;> rfl

/-- A block for every path changes nothing of what applies to a path. -/
theorem select_catchAllText (ht : SelfContained t) (hp : pathBlocks t = []) (path : Text) :
    (compile (catchAllText t)).select path = (compile t).select path := by
  have hblocks : (scanBlocks .path ⟨0, catchAllText (normalize t).text⟩).blocks =
      [catchAllBlock (normalize t).text] := by
    rw [scanBlocks_catchAllText ht.braces_closed]
  have hinside : (compile (catchAllText t)).scopes =
      (scope? [] (catchAllBlock (normalize t).text)).value.toList := by
    have hvalue := value_scopes_of_paths (hblocks.symm ▸ List.cons_ne_nil _ _)
    rw [hblocks] at hvalue
    rw [← normalize_catchAllText ht] at hvalue
    exact hvalue
  have hplain : (compile t).scopes = [.catchAll (sections (normalFragment t)).value] :=
    value_scopes_of_no_path hp
  rw [Compilation.select, Compilation.select, hinside, hplain, PathScope.select_catchAll,
    value_scope?_catchAllBlock ht.braces_closed]
  split
  · rename_i hempty
    exact (List.isEmpty_iff.mp hempty).symm
  · exact PathScope.select_catchAll ..

theorem select_catchAllText_listText :
    SelfContained listText ∧ pathBlocks listText = [] ∧
      ((compile (catchAllText listText)).select "/shop".toList).map (·.name) = [['a']] := by
  have ht : SelfContained listText := by decide +kernel
  have hp : pathBlocks listText = [] := by decide +kernel
  refine ⟨ht, hp, ?_⟩
  rw [select_catchAllText ht hp]
  decide +kernel

end RuleText
end PageRules
