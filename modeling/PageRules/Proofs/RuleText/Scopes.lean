import Mathlib
import PageRules.Proofs.RuleText.WellFormed

/-!
# What scopes are made of

The rules of a fragment come from the sections that a scan finds, the scopes of a text from its path
blocks or, where there are none, from all of it. What is made and what is noted is said apart, so
that later proofs need not run the compiler.
-/

namespace PageRules.RuleText

variable {t : Text}

/-! ## Sections -/

/-- The rules are those of the sections that make one, in the order of the text. -/
theorem value_sections (f : Fragment) :
    (sections f).value = (scanBlocks .section f).blocks.filterMap fun b => (section? b).value :=
  Noted.value_collect ..

theorem notes_sections (f : Fragment) :
    (sections f).notes = (reportMalformed .section (scanBlocks .section f).malformed).notes ++
      (scanBlocks .section f).blocks.flatMap fun b => (section? b).notes :=
  congrArg _ (Noted.notes_collect ..)

/-! ## Scopes -/

/-- A path block makes nothing where a scope has its pattern already; apart from that the scopes
before it do not matter. -/
theorem value_scope? (scopes : List PathScope) (b : Block) :
    (scope? scopes b).value =
      if scopes.any (·.pattern == b.header.text) then none else (scope? [] b).value := by
  unfold scope?
  dsimp only
  by_cases hn : b.header.text = []
  · rw [if_pos hn, if_pos hn]
    split <;> rfl
  · rw [if_neg hn, if_neg hn, List.any_nil, if_neg Bool.false_ne_true]
    split <;> rfl

/-- A path block makes a scope of its pattern and the rules of its sections. -/
theorem scope?_eq_some {scopes : List PathScope} {b : Block} {s : PathScope}
    (h : (scope? scopes b).value = some s) :
    s.pattern = b.header.text ∧ s.rules = (sections b.body).value := by
  rw [value_scope?] at h
  split at h
  · cases h
  · unfold scope? at h
    dsimp only at h
    split at h
    · cases h
    · rw [List.any_nil, if_neg Bool.false_ne_true, Noted.value_bind] at h
      split at h
      · cases h
      · split at h
        · rename_i hs
          cases h
          exact of_eq_ok hs
        · cases h

theorem value_addScope (scopes : List PathScope) (b : Block) :
    (addScope scopes b).value = scopes ++ (scope? scopes b).value.toList := rfl

/-- A text without path blocks is one scope for all paths. -/
theorem value_scopes_of_no_path {f : Fragment} (h : (scanBlocks .path f).blocks = []) :
    (scopes f).value = [.catchAll (sections f).value] := by
  rw [scopes, Noted.value_bind, if_pos (by rw [h]; rfl)]
  rfl

theorem notes_scopes_of_no_path {f : Fragment} (h : (scanBlocks .path f).blocks = []) :
    (scopes f).notes =
      (reportMalformed .path (scanBlocks .path f).malformed).notes ++ (sections f).notes := by
  rw [scopes, Noted.notes_bind, if_pos (by rw [h]; rfl), Noted.notes_bind, Noted.notes_pure,
    List.append_nil]

theorem value_scopes_of_paths {f : Fragment} (h : (scanBlocks .path f).blocks ≠ []) :
    (scopes f).value = ((scanBlocks .path f).blocks.foldlM addScope []).value := by
  rw [scopes, Noted.value_bind, if_neg (by simpa using h)]
  rfl

/-- Beside path blocks every section outside of them is noted as astray, before what is inside the
blocks is read. -/
theorem notes_scopes_of_paths {f : Fragment} (h : (scanBlocks .path f).blocks ≠ []) :
    (scopes f).notes = (reportMalformed .path (scanBlocks .path f).malformed).notes ++
      ((scanBlocks .section f).blocks.map (fun b => (⟨b.start, .straySection⟩ : Note)) ++
        ((scanBlocks .path f).blocks.foldlM addScope []).notes) := by
  rw [scopes, Noted.notes_bind, if_neg (by simpa using h)]
  rfl

/-! ## Compilations -/

/-- The normal form of a text. -/
def normalFragment (raw : Text) : Fragment := ⟨0, (normalize raw).text⟩

/-- The path blocks that the scan for paths finds. -/
def pathBlocks (raw : Text) : List Block := (scanBlocks .path (normalFragment raw)).blocks

/-- The rules of all scopes in order. -/
def Compilation.rules (c : Compilation) : List Rule := c.scopes.flatMap (·.rules)

/-- The diagnostic of a note in a text. -/
def Note.inText (text : Text) (note : Note) : Diagnostic := ⟨lineOf text note.start, note.issue⟩

/-- An unclosed comment is reported first, then what compiling notes, each with its line. -/
theorem diagnostics_compile (raw : Text) :
    (compile raw).diagnostics =
      ((normalize raw).unclosed.map fun line => ⟨line, .unclosedComment⟩).toList ++
        (scopes (normalFragment raw)).notes.map (·.inText (normalize raw).text) := rfl

theorem diagnostics_of_closed (h : (normalize t).unclosed = none) :
    (compile t).diagnostics =
      (scopes (normalFragment t)).notes.map (·.inText (normalize t).text) := by
  rw [diagnostics_compile, h]
  rfl

theorem rules_of_no_path (h : pathBlocks t = []) :
    (compile t).rules = (sections (normalFragment t)).value := by
  have hscopes : (compile t).scopes = _ := value_scopes_of_no_path h
  rw [Compilation.rules, hscopes]
  exact List.append_nil _

end PageRules.RuleText
