import Mathlib
import PageRules.Proofs.Text.Solid
import PageRules.Text.Case

/-!
# Letter case and white space

A character always has an upper and a lower case form, and one that is no white space has forms
without white space: the tables are checked for it, run by run and row by row. So a change of case
leaves a trimmed text trimmed.
-/

namespace PageRules.Text

/-! ## The tables -/

namespace CaseRun

/-- The run changes nothing into white space. -/
def isClear (run : CaseRun) : Bool :=
  blankCodes.all fun b => (b : Int) < run.first + run.offset || run.last + run.offset < (b : Int)

/-- No run of a table leads to the code of a blank from a code that is none. -/
theorem convert_not_mem {runs : List CaseRun} (h : ∀ run ∈ runs, run.isClear = true) {n : Nat}
    (hn : n ∉ blankCodes) : convert runs n ∉ blankCodes := by
  unfold convert
  split
  · rename_i run hrun
    intro hb
    have hclear := List.all_eq_true.mp (h run (List.mem_of_find?_eq_some hrun)) _ hb
    have hcovers := List.find?_some hrun
    have hpos : ((n : Int) + run.offset).toNat ≠ 0 := by
      intro h0
      rw [h0] at hb
      exact absurd hb (by decide)
    simp only [covers, Bool.and_eq_true, decide_eq_true_eq] at hcovers
    simp only [Bool.or_eq_true, decide_eq_true_eq] at hclear
    omega
  · exact hn

end CaseRun

theorem upperRuns_clear : ∀ run ∈ upperRuns, run.isClear = true := by decide +kernel

theorem lowerRuns_clear : ∀ run ∈ lowerRuns, run.isClear = true := by decide +kernel

theorem upperExpansions_clear :
    ∀ e ∈ upperExpansions, e.2 ≠ [] ∧ ∀ n ∈ e.2, n ∉ blankCodes := by decide +kernel

theorem lowerExpansions_clear :
    ∀ e ∈ lowerExpansions, e.2 ≠ [] ∧ ∀ n ∈ e.2, n ∉ blankCodes := by decide +kernel

/-! ## Characters -/

/-- The form that runs and expansions give to a character. -/
def caseForm (runs : List CaseRun) (expansions : List (Nat × List Nat)) (c : Char) : Text :=
  match expansions.lookup c.toNat with
  | some forms => forms.map Char.ofNat
  | none => [Char.ofNat (CaseRun.convert runs c.toNat)]

section

variable {runs : List CaseRun} {expansions : List (Nat × List Nat)}
  (he : ∀ e ∈ expansions, e.2 ≠ [] ∧ ∀ n ∈ e.2, n ∉ blankCodes)
include he

theorem caseForm_ne_nil (c : Char) : caseForm runs expansions c ≠ [] := by
  unfold caseForm
  split
  · rename_i forms hf
    obtain ⟨before, after, hl, -⟩ := List.lookup_eq_some_iff.mp hf
    rw [Ne, List.map_eq_nil_iff]
    exact (he (c.toNat, forms) (by simp [hl])).1
  · exact List.cons_ne_nil _ _

/-- The form of a character that is not blank has no blanks, be it in a run or written out. -/
theorem solid_caseForm (hr : ∀ run ∈ runs, run.isClear = true) {c : Char}
    (hc : isBlank c = false) : Solid (caseForm runs expansions c) := by
  unfold caseForm
  split
  · rename_i forms hf
    obtain ⟨before, after, hl, -⟩ := List.lookup_eq_some_iff.mp hf
    intro d hd
    obtain ⟨n, hn, rfl⟩ := List.mem_map.mp hd
    exact isBlank_ofNat ((he (c.toNat, forms) (by simp [hl])).2 n hn)
  · have hcode : c.toNat ∉ blankCodes := by
      rw [← isBlank_iff, hc]
      exact Bool.false_ne_true
    exact .cons (isBlank_ofNat (CaseRun.convert_not_mem hr hcode)) .nil

end

/-! ## Texts -/

/-- Where every character has a form, the ends of a text take the forms of its own ends. -/
theorem trimmed_flatMap {f : Char → Text} (hne : ∀ c, f c ≠ [])
    (hs : ∀ c, isBlank c = false → Solid (f c)) {t : Text} (h : Trimmed t) :
    Trimmed (t.flatMap f) := by
  obtain ⟨hhead, hlast⟩ := trimmed_iff.mp h
  refine trimmed_iff.mpr ⟨fun d hd => ?_, getLast?_flatMap hne fun c hc => hs c (hlast c hc)⟩
  cases t with
  | nil => cases hd
  | cons c t =>
    rw [List.flatMap_cons, List.head?_append_of_ne_nil _ (hne c)] at hd
    exact hs c (hhead c rfl) d (List.mem_of_head? hd)

/-- Upper case leaves a trimmed text trimmed. -/
theorem trimmed_toUpper {t : Text} (h : Trimmed t) : Trimmed (toUpper t) :=
  trimmed_flatMap (caseForm_ne_nil upperExpansions_clear)
    (fun _ => solid_caseForm upperExpansions_clear upperRuns_clear) h

/-- The lower case form of a character between two texts. -/
def lowerForm (before : Text) (c : Char) (rest : Text) : Text :=
  if c == 'Σ' then [if meetsCased before && !meetsCased rest then 'ς' else 'σ'] else lowerChar c

theorem toLowerAfter_cons (before : Text) (c : Char) (rest : Text) :
    toLowerAfter before (c :: rest) = lowerForm before c rest ++ toLowerAfter (c :: before) rest :=
  rfl

theorem lowerForm_ne_nil (before : Text) (c : Char) (rest : Text) :
    lowerForm before c rest ≠ [] := by
  unfold lowerForm
  split
  · exact List.cons_ne_nil _ _
  · exact caseForm_ne_nil lowerExpansions_clear c

theorem solid_lowerForm (before : Text) {c : Char} (hc : isBlank c = false) (rest : Text) :
    Solid (lowerForm before c rest) := by
  unfold lowerForm
  split
  · refine .cons ?_ .nil
    split <;> rfl
  · exact solid_caseForm lowerExpansions_clear lowerRuns_clear hc

/-- What a text ends with decides what its lower case ends with. -/
theorem getLast?_toLowerAfter {t : Text} (h : ∀ c ∈ t.getLast?, isBlank c = false)
    (before : Text) : ∀ d ∈ (toLowerAfter before t).getLast?, isBlank d = false := by
  induction t generalizing before with
  | nil => simp [toLowerAfter]
  | cons c t ih =>
    rw [toLowerAfter_cons]
    cases t with
    | nil =>
      rw [toLowerAfter, List.append_nil]
      exact fun d hd => solid_lowerForm before (h c rfl) [] d (List.mem_of_getLast? hd)
    | cons e t =>
      have hne : toLowerAfter (c :: before) (e :: t) ≠ [] := by
        rw [toLowerAfter_cons]
        exact List.append_ne_nil_of_left_ne_nil (lowerForm_ne_nil _ e t) _
      rw [List.getLast?_append_of_ne_nil _ hne]
      exact ih (by simpa using h) (c :: before)

/-- Lower case leaves a trimmed text trimmed; the first and the last character keep a form each. -/
theorem trimmed_toLower {t : Text} (h : Trimmed t) : Trimmed (toLower t) := by
  obtain ⟨hhead, hlast⟩ := trimmed_iff.mp h
  refine trimmed_iff.mpr ⟨fun d hd => ?_, getLast?_toLowerAfter hlast []⟩
  cases t with
  | nil => cases hd
  | cons c t =>
    rw [toLower, toLowerAfter_cons, List.head?_append_of_ne_nil _ (lowerForm_ne_nil [] c t)] at hd
    exact solid_lowerForm [] (hhead c rfl) t d (List.mem_of_head? hd)

end PageRules.Text
