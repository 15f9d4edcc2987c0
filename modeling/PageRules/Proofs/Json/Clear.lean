import Mathlib
import PageRules.Boundary

/-!
# Output without control characters

A string is written with its control characters escaped, whatever they are, so the text of a value
has none unless a number keeps a spelling with one (`Json.Clear.render`). What a call gives out has
no numbers but those that are counted, and is clear for every page and every rule text
(`Page.clear_toJson`, `Boundary.clear_summary`).
-/

namespace PageRules

/-- No control character is in the text. -/
def Text.Clear (t : Text) : Prop := ∀ c ∈ t, 0x20 ≤ c.toNat

instance (t : Text) : Decidable (Text.Clear t) := List.decidableBAll _ t

namespace Text

variable {s t : Text} {c : Char}

theorem Clear.cons (hc : 0x20 ≤ c.toNat) (h : Clear t) : Clear (c :: t) :=
  List.forall_mem_cons.mpr ⟨hc, h⟩

theorem Clear.append (hs : Clear s) (ht : Clear t) : Clear (s ++ t) :=
  List.forall_mem_append.mpr ⟨hs, ht⟩

/-- A clear text can be handed on as a string that a null character ends. -/
theorem Clear.null_notMem (h : Clear t) : '\x00' ∉ t := fun hm => absurd (h _ hm) (by decide)

theorem clear_ofNat (n : Nat) : Clear (ofNat n) := by
  intro c hc
  have hd : c.isDigit = true := Nat.isDigit_of_mem_toDigits (by decide) (by decide) hc
  simp only [Char.isDigit, Bool.and_eq_true, decide_eq_true_eq] at hd
  exact le_trans (by decide) (UInt32.le_iff_toNat_le.mp hd.1)

theorem clear_ofInt (n : Int) : Clear (ofInt n) := by
  cases n with
  | ofNat n => exact clear_ofNat n
  | negSucc n => exact .cons (by decide) (clear_ofNat (n + 1))

end Text

namespace Json

/-- The spellings that a value keeps are clear. -/
inductive Clear : Json → Prop where
  | null : Clear .null
  | bool (b : Bool) : Clear (.bool b)
  | int (n : Int) : Clear (.int n)
  | real {spelling : Text} (h : Text.Clear spelling) : Clear (.real spelling)
  | str (t : Text) : Clear (.str t)
  | arr {vs : List Json} (h : ∀ v ∈ vs, Clear v) : Clear (.arr vs)
  | obj {ms : List (Text × Json)} (h : ∀ m ∈ ms, Clear m.2) : Clear (.obj ms)
  | unreadable : Clear .unreadable

/-! ## Writing -/

/-- The code of a control character is written in digits and letters. -/
theorem clear_hexDigit {n : Nat} (h : n < 16) : 0x20 ≤ (hexDigit n).toNat := by
  interval_cases n <;> decide

/-- A control character is written by its name or by its code. -/
theorem clear_escape (c : Char) : Text.Clear (escape c) := by
  unfold escape
  split
  case h_8 =>
    split
    · have hhigh := clear_hexDigit (n := c.toNat / 16) (by omega)
      have hlow := clear_hexDigit (Nat.mod_lt c.toNat (y := 16) (by decide))
      have hcode : Text.Clear [hexDigit (c.toNat / 16), hexDigit (c.toNat % 16)] :=
        .cons hhigh (.cons hlow (by decide))
      exact .append (s := ['\\', 'u', '0', '0']) (by decide) hcode
    · exact .cons (by omega) (by decide)
  all_goals decide

/-- A text is clear in quotes, whatever characters it has. -/
theorem clear_quoted (t : Text) : Text.Clear (quoted t) := by
  have hbody : Text.Clear (t.flatMap escape) := by
    intro c hc
    obtain ⟨d, -, hd⟩ := List.mem_flatMap.mp hc
    exact clear_escape d c hd
  exact .append (.cons (by decide) hbody) (by decide)

/-- The commas between the elements of an array are clear. -/
theorem clear_renderElements {vs : List Json} (h : ∀ v ∈ vs, Text.Clear (render v)) :
    Text.Clear (renderElements vs) := by
  induction vs with
  | nil => decide
  | cons v vs ih =>
    obtain ⟨hv, hvs⟩ := List.forall_mem_cons.mp h
    rw [renderElements]
    exact .append (.cons (by decide) hv) (ih hvs)

/-- The keys of an object are quoted, so they are clear as its values are. -/
theorem clear_renderMembers {ms : List (Text × Json)} (h : ∀ m ∈ ms, Text.Clear (render m.2)) :
    Text.Clear (renderMembers ms) := by
  induction ms with
  | nil => decide
  | cons m ms ih =>
    obtain ⟨hm, hms⟩ := List.forall_mem_cons.mp h
    rw [renderMembers]
    exact .append (.append (.cons (by decide) (clear_quoted m.1)) (.cons (by decide) hm)) (ih hms)

namespace Clear

/-- The text of a value is clear where the spellings are that the value keeps. -/
theorem render {j : Json} (h : Clear j) : Text.Clear j.render := by
  induction h with
  | null | unreadable => decide
  | bool b => cases b <;> decide
  | int n => exact Text.clear_ofInt n
  | real h => exact h
  | str t => exact clear_quoted t
  | @arr vs _ ih =>
    cases vs with
    | nil => decide
    | cons v vs =>
      obtain ⟨hv, hvs⟩ := List.forall_mem_cons.mp ih
      rw [Json.render]
      exact .append (.cons (by decide) hv) (clear_renderElements hvs)
  | @obj ms _ ih =>
    cases ms with
    | nil => decide
    | cons m ms =>
      obtain ⟨hm, hms⟩ := List.forall_mem_cons.mp ih
      rw [Json.render]
      exact .append (.append (.cons (by decide) (clear_quoted m.1)) (.cons (by decide) hm))
        (clear_renderMembers hms)

variable {α : Type}

theorem arr_map {f : α → Json} (h : ∀ a, Clear (f a)) (l : List α) : Clear (.arr (l.map f)) := by
  refine .arr fun v hv => ?_
  obtain ⟨a, -, rfl⟩ := List.mem_map.mp hv
  exact h a

theorem members_map {f : α → Json} (h : ∀ a, Clear (f a)) (key : α → Text) (l : List α) :
    ∀ m ∈ l.map fun a => (key a, f a), Clear m.2 := by
  intro m hm
  obtain ⟨a, -, rfl⟩ := List.mem_map.mp hm
  exact h a

end Clear
end Json

/-! ## Pages -/

theorem OptionValue.clear_toJson (o : OptionValue) : o.toJson.Clear := by
  cases o with
  | text t => exact .str t
  | integer n => exact .int n
  | flag b => exact .bool b
  | list items => exact .arr_map .str items

theorem Extracted.clear_toJson (x : Extracted) : x.toJson.Clear := by
  cases x with
  | one t => exact .str t
  | many ts => exact .arr_map .str ts

/-- A wrapped value is an object of the value and its metadata, and both are clear. -/
theorem Tagged.clear_toJson {α : Type} {json : α → Json} (h : ∀ a, (json a).Clear) (t : Tagged α) :
    (t.toJson json).Clear := by
  have hwrap {value : Json} (hv : value.Clear) :
      (if t.isBare then value
        else .obj ((OptionKey.value, value) ::
          t.metadata.entries.map fun e => (e.1, e.2.toJson))).Clear := by
    split
    · exact hv
    · refine .obj (List.forall_mem_cons.mpr ⟨hv, ?_⟩)
      exact Json.Clear.members_map (fun e => e.2.clear_toJson) Prod.fst _
  unfold toJson
  cases t.value with
  | none => exact hwrap .null
  | some v => exact hwrap (h v)

theorem FieldValues.clear_toMembers (fields : FieldValues) : ∀ m ∈ fields.toMembers, m.2.Clear :=
  Json.Clear.members_map (fun e : Field × Tagged Extracted => e.2.clear_toJson
    Extracted.clear_toJson) (·.1.name) fields

theorem Item.clear_toJson (i : Item) : i.toJson.Clear := .obj i.fields.clear_toMembers

/-- A record of a page keeps no spelling of a number, so it is clear whatever the page says. -/
theorem Record.clear_toJson (r : Record) : r.toJson.Clear := by
  refine .obj (List.forall_mem_append.mpr ⟨List.forall_mem_append.mpr ⟨?_, ?_⟩, ?_⟩)
  · refine List.forall_mem_cons.mpr ⟨.str _, ?_⟩
    exact Json.Clear.members_map (fun e => e.2.clear_toJson) Prod.fst r.metadata
  · exact r.fields.clear_toMembers
  · split
    · exact List.forall_mem_singleton.mpr (Tagged.clear_toJson (.arr_map Item.clear_toJson) _)
    · simp

theorem RuleText.Diagnostic.clear_toJson (d : Diagnostic) : d.toJson.Clear := by
  refine .obj ?_
  simp only [List.forall_mem_cons]
  exact ⟨.str _, .int _, .str _, by simp⟩

/-- What is given out of a page is clear, its path and its diagnostics included. -/
theorem Page.clear_toJson (p : Page) : p.toJson.Clear := by
  refine .obj ?_
  simp only [List.forall_mem_cons]
  exact ⟨.str _, .str _, .arr_map Record.clear_toJson _,
    .arr_map RuleText.Diagnostic.clear_toJson _, by simp⟩

/-! ## Rule texts -/

/-- The summary of a rule text holds names and patterns as strings, which are clear whatever they
are. -/
theorem Boundary.clear_summary (c : RuleText.Compilation) : (summary c).Clear := by
  have hscope (s : PathScope) : (Json.obj [("pattern".toList, .str s.pattern),
      ("sections".toList, .arr (s.rules.map (.str ·.name)))]).Clear := by
    refine .obj ?_
    simp only [List.forall_mem_cons]
    exact ⟨.str _, .arr_map (fun _ => .str _) _, by simp⟩
  have htype : (Json.ofOption .str c.pageType).Clear := by
    cases c.pageType with
    | none => exact .null
    | some t => exact .str t
  refine .obj ?_
  simp only [List.forall_mem_cons]
  exact ⟨htype, .arr_map hscope _, .arr_map RuleText.Diagnostic.clear_toJson _, by simp⟩

end PageRules
