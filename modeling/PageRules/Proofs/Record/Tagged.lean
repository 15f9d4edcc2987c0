import Mathlib
import PageRules.Proofs.Extraction.Keys

/-!
# Writes to tagged values

A tagged value is written to in place (`Write.perform`), again and again, and some of the writes
fail. While its slot is filled, a write does not reach the slot, and what it does to the metadata
can be told from the write alone (`Write.run_filled`). So after every run of writes the value is the
one that it was made with, and its metadata has what was offered first for each key
(`writeAll_keepsFirst`).
-/

namespace PageRules

/-- An object is written longer than the value of its first member. -/
theorem Json.length_render_lt (key : Text) (j : Json) (members : List (Text × Json)) :
    j.render.length < (Json.obj ((key, j) :: members)).render.length := by
  rw [Json.render]
  simp only [List.cons_append, List.length_cons, List.length_append]
  omega

namespace Tagged

open WriteOnce (firstEntries)

variable {α : Type}

/-! ## Writes in place -/

/-- A write to a tagged value. -/
inductive Write (α : Type) where
  /-- Fills the slot of the value. -/
  | fill (value : α)
  /-- Adds metadata. -/
  | add (key : Text) (option : OptionValue)

namespace Write

variable {w : Write α} {t : Tagged α}

/-- What a write gives. -/
def result (t : Tagged α) : Write α → Except ValueOverwrite (Tagged α)
  | fill value => t.setValue value
  | add key option => t.insert key option

/-- A write that is done in place: what is done before it fails stays done. -/
def perform : Write α → ExceptT ValueOverwrite (StateM (Tagged α)) Unit
  | fill value => do
    if (← get).value.isSome then throw {}
    modify fun t => { t with value := some value }
  | add key option => do
    if key = OptionKey.value then throw {}
    modify fun t => { t with metadata := t.metadata.insert key option }

/-- What comes of a write in place, and the tagged value that it leaves. -/
def run (w : Write α) (t : Tagged α) : Except ValueOverwrite Unit × Tagged α := w.perform.run.run t

/-- The write goes for a value that is there. -/
def Overwrites : Write α → Prop
  | fill _ => True
  | add key _ => key = OptionKey.value

instance : DecidablePred (@Overwrites α)
  | fill _ => inferInstanceAs (Decidable True)
  | add key _ => inferInstanceAs (Decidable (key = OptionKey.value))

/-- The metadata that is offered. -/
def offered : Write α → List (Text × OptionValue)
  | fill _ => []
  | add key option => if key = OptionKey.value then [] else [(key, option)]

/-- A write in place leaves what the write gives, or fails and leaves all as it was. -/
theorem run_eq (w : Write α) (t : Tagged α) :
    w.run t = match w.result t with
      | .ok after => (.ok (), after)
      | .error e => (.error e, t) := by
  cases w with
  | fill value =>
    obtain ⟨slot, metadata⟩ := t
    cases slot <;> rfl
  | add key option =>
    by_cases hk : key = OptionKey.value
    · simp only [run, perform, result, insert, if_pos hk]
      rfl
    · simp only [run, perform, result, insert, if_neg hk]
      rfl

/-- While the slot is filled, what a write does can be told from the write alone. -/
theorem run_filled (w : Write α) (value : α) (metadata : OptionSet) :
    w.run ⟨some value, metadata⟩ = (if w.Overwrites then .error {} else .ok (),
      ⟨some value, metadata.insertAll w.offered⟩) := by
  cases w with
  | fill other => rfl
  | add key option =>
    rw [run_eq, result, insert, offered, apply_ite metadata.insertAll]
    by_cases hk : key = OptionKey.value
    · rw [if_pos hk, if_pos hk, if_pos (show (add key option).Overwrites from hk)]
      rfl
    · rw [if_neg hk, if_neg hk, if_neg (show ¬ (add key option).Overwrites from hk)]
      rfl

/-- A write in place does what the write gives. It fails exactly where it goes for the value, and
then it leaves all as it was. -/
structure Guarded (w : Write α) (t : Tagged α) : Prop where
  fails_iff : (w.run t).1 = .error {} ↔ w.Overwrites
  unchanged : ∀ e, (w.run t).1 = .error e → (w.run t).2 = t
  result_iff : ∀ after, w.result t = .ok after ↔ w.run t = (.ok (), after)

theorem guarded_filled (w : Write α) (value : α) (metadata : OptionSet) :
    w.Guarded ⟨some value, metadata⟩ where
  fails_iff := by
    rw [run_filled]
    split <;> simp [*]
  unchanged e h := by
    rw [run_eq] at h ⊢
    cases hw : w.result ⟨some value, metadata⟩ with
    | ok after =>
      rw [hw] at h
      cases h
    | error e => rfl
  result_iff after := by
    rw [run_eq]
    cases w.result ⟨some value, metadata⟩ <;> simp

theorem ne_value_of_mem_offered {e : Text × OptionValue} (h : e ∈ w.offered) :
    e.1 ≠ OptionKey.value := by
  cases w with
  | fill value => cases h
  | add key option =>
    rw [offered] at h
    split at h
    · cases h
    · rename_i hk
      rwa [List.mem_singleton.mp h]

end Write

/-! ## Runs of writes -/

/-- Writes in place, one after another, whether they fail or not. -/
def writeAll (t : Tagged α) (writes : List (Write α)) : Tagged α :=
  writes.foldl (fun t w => (w.run t).2) t

theorem writeAll_filled (value : α) (metadata : OptionSet) (writes : List (Write α)) :
    writeAll ⟨some value, metadata⟩ writes =
      ⟨some value, metadata.insertAll (writes.flatMap Write.offered)⟩ := by
  induction writes generalizing metadata with
  | nil => rfl
  | cons w writes ih =>
    rw [List.flatMap_cons, WriteOnce.insertAll_append, ← ih, writeAll, List.foldl_cons,
      w.run_filled]
    rfl

/-- How tagged values are made, with the entries that are copied from options. -/
inductive Made : α → List (Text × OptionValue) → Tagged α → Prop
  | bare (value : α) : Made value [] (.bare value)
  | withPassthrough {value : α} {options : OptionSet} {t : Tagged α}
      (h : withPassthrough value options = .ok t) : Made value options.passthrough.entries t

theorem Made.eq {value : α} {copied : List (Text × OptionValue)} {t : Tagged α}
    (h : Made value copied t) :
    t = ⟨some value, .ofList copied⟩ ∧ ∀ e ∈ copied, e.1 ≠ OptionKey.value := by
  cases h with
  | bare => exact ⟨rfl, by simp⟩
  | @withPassthrough options _ h =>
    rw [withPassthrough_eq, ← any_passthrough_eq_value] at h
    split at h
    · cases h
    · rename_i hfree
      cases h
      constructor
      · rw [WriteOnce.ofList, WriteOnce.empty_insertAll]
        rfl
      · intro e he hk
        exact hfree (List.any_eq_true.mpr ⟨e, he, decide_eq_true hk⟩)

/-- The slot has the value, and the metadata has what was offered first for each key, in the order
of the first offers, and nothing under the key of the value. Without metadata the value is written
as it is, and else not. -/
structure KeepsFirst (value : α) (offered : List (Text × OptionValue)) (t : Tagged α) : Prop where
  slot : t.value = some value
  metadata : t.metadata.entries = firstEntries offered
  metadata_of_key : ∀ key, t.metadata.get? key = offered.lookup key
  value_not_mem : OptionKey.value ∉ t.metadata.keys
  toJson : ∀ json : α → Json, t.toJson json =
    if t.metadata.entries = [] then json value
    else .obj ((OptionKey.value, json value) :: optionMembers t.metadata.entries)
  render_iff : ∀ json : α → Json,
    (t.toJson json).render = (json value).render ↔ t.metadata.entries = []

theorem toJson_filled (json : α → Json) (value : α) (metadata : OptionSet) :
    toJson json ⟨some value, metadata⟩ = if metadata.entries = [] then json value
      else .obj ((OptionKey.value, json value) :: optionMembers metadata.entries) := by
  rw [toJson, isBare, WriteOnce.isEmpty]
  simp only [List.isEmpty_iff]
  rfl

theorem render_toJson_filled_iff (json : α → Json) (value : α) (metadata : OptionSet) :
    (toJson json ⟨some value, metadata⟩).render = (json value).render ↔ metadata.entries = [] := by
  rw [toJson_filled]
  split
  · rename_i h
    simp [h]
  · rename_i h
    refine iff_of_false (fun heq => ?_) h
    have hlt := Json.length_render_lt OptionKey.value (json value) (optionMembers metadata.entries)
    rw [heq] at hlt
    exact lt_irrefl _ hlt

theorem keepsFirst_filled (value : α) {offered : List (Text × OptionValue)}
    (h : ∀ e ∈ offered, e.1 ≠ OptionKey.value) :
    KeepsFirst value offered ⟨some value, .ofList offered⟩ where
  slot := rfl
  metadata := WriteOnce.entries_ofList offered
  metadata_of_key key := by convert WriteOnce.get?_ofList offered key
  value_not_mem hm :=
    WriteOnce.forall_keys_insertAll (p := (· ≠ OptionKey.value)) (by simp) h _ hm rfl
  toJson json := toJson_filled json value _
  render_iff json := render_toJson_filled_iff json value _

/-- Through every run of writes in place a tagged value keeps the value that it was made with and
the metadata that was offered first, and it stays guarded. -/
theorem writeAll_keepsFirst {value : α} {copied : List (Text × OptionValue)} {t : Tagged α}
    (h : Made value copied t) (writes : List (Write α)) :
    (t.writeAll writes).KeepsFirst value (copied ++ writes.flatMap Write.offered) ∧
      ∀ w : Write α, w.Guarded (t.writeAll writes) := by
  obtain ⟨rfl, hcopied⟩ := h.eq
  have hoffered : ∀ e ∈ copied ++ writes.flatMap Write.offered, e.1 ≠ OptionKey.value := by
    intro e he
    rcases List.mem_append.mp he with he | he
    · exact hcopied e he
    · obtain ⟨w, -, he⟩ := List.mem_flatMap.mp he
      exact Write.ne_value_of_mem_offered he
  rw [writeAll_filled, WriteOnce.ofList, ← WriteOnce.insertAll_append]
  exact ⟨keepsFirst_filled value hoffered, fun w => w.guarded_filled value _⟩

/-- Options of which one is copied. -/
def ratioOptions : OptionSet :=
  .ofList [(OptionKey.limit, .integer 3), ("img-ratio".toList, .text "16/9".toList)]

/-- Writes some of which fail, and some of which come too late. -/
def ratioWrites : List (Write Text) :=
  [.add "lazy".toList (.flag true), .fill ['b'], .add OptionKey.value (.flag true),
    .add "img-ratio".toList (.text "1/1".toList), .add "lazy".toList (.flag false)]

theorem writeAll_keepsFirst_ratioWrites :
    ∃ t, Made ['a'] ratioOptions.passthrough.entries t ∧
      (t.writeAll ratioWrites).value = some ['a'] ∧
      (t.writeAll ratioWrites).metadata.entries =
        [("img-ratio".toList, .text "16/9".toList), ("lazy".toList, .flag true)] ∧
      ((Write.fill ['b']).run (t.writeAll ratioWrites)).2 = t.writeAll ratioWrites := by
  have hmade : withPassthrough ['a'] ratioOptions = .ok (wrap ['a'] ratioOptions) := by
    rw [withPassthrough_eq, if_neg (by decide)]
  obtain ⟨hkeeps, hguarded⟩ := writeAll_keepsFirst (.withPassthrough hmade) ratioWrites
  refine ⟨_, .withPassthrough hmade, hkeeps.slot, ?_, ?_⟩
  · exact hkeeps.metadata.trans (by decide)
  · exact (hguarded (.fill ['b'])).unchanged _ ((hguarded (.fill ['b'])).fails_iff.mpr trivial)

end Tagged
end PageRules
