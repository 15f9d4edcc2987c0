import Mathlib
import PageRules.Proofs.RuleText.Noted
import PageRules.Proofs.RuleText.Plain
import PageRules.Proofs.WriteOnce

/-!
# Options come back as written

The group that `OptionSet.write` makes is read back whole (`readOptions_write`): its parts stay
apart at commas, the key of a part ends at its first colon, and quotes guard a text that reading
would change.
-/

namespace PageRules

/-! ## Values -/

namespace OptionValue

open Text

theorem unquote_sublist (t : Text) : (unquote t).Sublist t := by
  unfold unquote
  split
  · split
    · exact (List.dropLast_sublist _).trans (List.sublist_cons_self _ _)
    · exact .refl _
  · exact .refl _

theorem trimmed_quoted (t : Text) : Trimmed (quoted t) := by
  unfold quoted
  split
  · rename_i h
    have hs : t.Sublist (Text.trim t) := by
      conv_lhs => rw [← h]
      exact unquote_sublist _
    exact (trim_isInfix t).sublist.antisymm hs
  · exact trimmed_cons_append (by decide) (by decide) t

/-- Quotes keep a text from being trimmed, and from losing quotes of its own. -/
theorem unquote_trim_quoted (t : Text) : unquote (Text.trim (quoted t)) = t := by
  rw [trimmed_quoted]
  by_cases h : unquote (Text.trim t) = t
  · have ht : quoted t = t := if_pos h
    have htrim : Trimmed t := ht ▸ trimmed_quoted t
    rw [ht]
    rwa [htrim] at h
  · rw [quoted, if_neg h]
    simp [unquote]

/-- A text that does not begin with a quote is read as it is. -/
theorem unquote_of_head {t : Text} (h : ∀ c ∈ t.head?, c ≠ '"' ∧ c ≠ '\'') : unquote t = t := by
  cases t with
  | nil => rfl
  | cons c t =>
    obtain ⟨hd, hs⟩ := h c rfl
    simp [unquote, hd, hs]

theorem toNat?_ofNat (n : Nat) : toNat? (Text.ofNat n) = some n := by
  have fold (t : Text) (ht : ∀ c ∈ t, c.isDigit = true) (i : Nat) :
      t.foldl (fun n c =>
        if c.isDigit then n.map (10 * · + (c.toNat - '0'.toNat)) else none) (some i) =
        some (Nat.ofDigitChars 10 t i) := by
    induction t generalizing i with
    | nil => simp
    | cons c t ih =>
      rw [List.foldl_cons, if_pos (ht c List.mem_cons_self), Option.map_some,
        ih fun d hd => ht d (List.mem_cons_of_mem _ hd), Nat.ofDigitChars_cons]
  have hne : (Text.ofNat n).isEmpty = false := by simp [Text.ofNat]
  rw [toNat?, hne, if_neg Bool.false_ne_true, fold _ fun _ => RuleText.isDigit_of_mem_ofNat,
    Text.ofNat, Nat.ofDigitChars_ten_toDigits]

/-- A number comes back from its digits where it fits into 64 bits. -/
theorem integer?_ofInt {n : Int} (hl : -0x8000000000000000 ≤ n) (hu : n < 0x8000000000000000) :
    integer? (Text.ofInt n) = some n := by
  have filter {o : Option Int} (ho : o = some n) :
      o.filter (fun n => -0x8000000000000000 ≤ n && n < 0x8000000000000000) = some n := by
    rw [ho, Option.filter_some, if_pos (by simp [hl, hu])]
  unfold integer?
  refine filter ?_
  cases n with
  | negSucc n => simp [Text.ofInt, toNat?_ofNat, Int.negSucc_eq]
  | ofNat n =>
    rw [Text.ofInt]
    split
    · rename_i h
      exact absurd (RuleText.isDigit_of_mem_ofNat (n := n) (c := '-') (by simp [h])) (by decide)
    · rename_i h
      exact absurd (RuleText.isDigit_of_mem_ofNat (n := n) (c := '+') (by simp [h])) (by decide)
    · simp [toNat?_ofNat]

/-- Alternatives come back where none is empty, has blanks at its ends or holds the bar between
them. -/
theorem alternatives_join {items : List Text} (h : ∀ t ∈ items, t ≠ [] ∧ Trimmed t ∧ '|' ∉ t) :
    alternatives (join ['|'] items) = items := by
  by_cases hn : items = []
  · subst hn
    rfl
  · have hm : items.map Text.trim = items := by
      conv_rhs => rw [← List.map_id items]
      exact List.map_congr_left fun t ht => (h t ht).2.1
    rw [alternatives, splitOn_join hn fun t ht => (h t ht).2.2, hm, List.filter_eq_self]
    intro t ht
    simpa using (h t ht).1

/-- A value is read as it is written. -/
theorem read_written {key w : Text} {v : OptionValue} (h : v.Suits key) (hw : v.written? = some w) :
    OptionValue.read key w = .ok v := by
  cases v with
  | flag b => cases hw
  | text t =>
    cases hw
    obtain ⟨hl, hi, ht⟩ := h
    simp [OptionValue.read, unquote_trim_quoted, hl, hi, ht]
  | list items =>
    cases hw
    obtain ⟨rfl, hitems⟩ := h
    rw [OptionValue.read, unquote_trim_quoted, if_neg (by decide), if_pos rfl,
      alternatives_join hitems]
  | integer n =>
    cases hw
    obtain ⟨hk, hl, hu⟩ := h
    have hn := RuleText.all_isNameChar_ofInt n
    have hq : unquote (Text.ofInt n) = Text.ofInt n := by
      refine unquote_of_head fun c hc => ?_
      have hm := RuleText.not_mem_marks (List.all_eq_true.mp hn c (List.mem_of_head? hc))
      simp only [RuleText.marks, List.mem_cons, not_or] at hm
      tauto
    rw [OptionValue.read, RuleText.trimmed_of_isNameChar hn, hq]
    simp only [if_pos hk, integer?_ofInt hl hu]

theorem trimmed_written {v : OptionValue} {w : Text} (hw : v.written? = some w) : Trimmed w := by
  cases v with
  | flag b => cases hw
  | text t => cases hw; exact trimmed_quoted t
  | list items => cases hw; exact trimmed_quoted _
  | integer n => cases hw; exact RuleText.trimmed_of_isNameChar (RuleText.all_isNameChar_ofInt n)

theorem plainOption_quoted {t : Text} (h : PlainOption t) : PlainOption (quoted t) := by
  unfold quoted
  split
  · exact h
  · rw [List.cons_append]
    exact Free.cons (h.append_cons (free_nil _) (by decide)) (by decide)

/-- A value is written without the marks that options are read by where its texts have none. -/
theorem plainOption_written {v : OptionValue} {w : Text} (h : ∀ t ∈ v.texts, PlainOption t)
    (hw : v.written? = some w) : PlainOption w := by
  cases v with
  | flag b => cases hw
  | text t => cases hw; exact plainOption_quoted (h t List.mem_cons_self)
  | list items => cases hw; exact plainOption_quoted (Free.join (by decide) h)
  | integer n =>
    cases hw
    exact RuleText.plainOption_of_isNameChar (RuleText.all_isNameChar_ofInt n)

end OptionValue

/-! ## Option sets -/

namespace OptionSet

open Text RuleText

section

variable {e : Text × OptionValue} (h : EntryWritable e)
include h

theorem EntryWritable.all_isNameChar : e.1.all isNameChar = true :=
  RuleText.all_isNameChar h.key_chars

theorem EntryWritable.lower_key : lower e.1 = e.1 := by
  conv_rhs => rw [← List.map_id e.1]
  refine List.map_congr_left fun c hc => ?_
  exact toLower_of_isKeyChar (List.all_eq_true.mp h.key_chars c hc)

theorem EntryWritable.plainOption : PlainOption (writeEntry e) := by
  have hk := plainOption_of_isNameChar h.all_isNameChar
  unfold writeEntry
  cases hw : e.2.written? with
  | none => simpa using hk
  | some w => exact hk.append_cons (OptionValue.plainOption_written h.texts hw) (by decide)

theorem EntryWritable.writeEntry_ne_nil : writeEntry e ≠ [] :=
  List.append_ne_nil_of_left_ne_nil h.key_ne_nil _

theorem EntryWritable.trimmed : Trimmed (writeEntry e) := by
  have hk := trimmed_of_isNameChar h.all_isNameChar
  unfold writeEntry
  cases hw : e.2.written? with
  | none => simpa using hk
  | some w =>
    by_cases hn : w = []
    · subst hn
      simpa using trimmed_append hk (t := [':']) (by decide) h.key_ne_nil (by simp) []
    · simpa using trimmed_append hk (OptionValue.trimmed_written hw) h.key_ne_nil hn [':']

/-- An entry that is written is read as its key and its value. -/
theorem EntryWritable.optionParts : optionParts (writeEntry e) = (e.1, e.2.written?) := by
  have hc : ∀ c ∈ e.1, (c == ':') = false := by
    refine beq_eq_false_of_mem fun hc => ?_
    exact not_mem_marks (List.all_eq_true.mp h.all_isNameChar _ hc) (by decide)
  unfold RuleText.optionParts writeEntry
  cases hw : e.2.written? with
  | none => simp only [List.append_nil, splitOnce_eq_none hc, h.lower_key]
  | some w =>
    simp only [splitOnce_append hc (beq_self_eq_true ':'), h.lower_key,
      show Text.trim e.1 = e.1 from trimmed_of_isNameChar h.all_isNameChar]

/-- Reading an entry that is written adds just the entry. -/
theorem EntryWritable.addOption (start : Nat) (o : OptionSet) :
    addOption start o (writeEntry e) = pure (o.insert e.1 e.2) := by
  rw [RuleText.addOption, show Text.trim (writeEntry e) = writeEntry e from h.trimmed,
    h.optionParts]
  unfold setOption
  rw [if_neg h.key_ne_nil, if_neg h.key_ne_value]
  cases hw : e.2.written? with
  | some w => simp only [OptionValue.read_written h.suits hw]
  | none =>
    have hs := h.suits
    cases hv : e.2 with
    | flag b =>
      rw [hv] at hs
      cases hs
      rfl
    | text | list | integer => rw [hv] at hw; cases hw

end

variable {o : OptionSet}

theorem Writable.trimmed_inside (h : o.Writable) : Trimmed o.inside := by
  refine (trimmed_join fun t ht => ?_)
  obtain ⟨e, he, rfl⟩ := List.mem_map.mp ht
  exact ⟨(h e he).trimmed, (h e he).writeEntry_ne_nil⟩

/-- Commas stand only between options. -/
theorem Writable.free_inside (h : o.Writable) :
    Free ['\n', '\r', '\x7b', '\x7d', '[', ']'] o.inside := by
  refine Free.join (by decide) fun t ht => ?_
  obtain ⟨e, he, rfl⟩ := List.mem_map.mp ht
  exact (h e he).plainOption.mono (by simp)

theorem Writable.plain_write (h : o.Writable) : Plain o.write := by
  unfold write
  split
  · exact free_nil _
  · have hi : Plain o.inside := h.free_inside.mono (by simp)
    exact Free.cons (Free.cons (hi.append_cons (free_nil _) (by decide)) (by decide)) (by decide)

theorem eq_space_of_mem_head?_write {c : Char} (h : c ∈ o.write.head?) : c = ' ' := by
  unfold write at h
  split at h
  · cases h
  · cases h
    rfl

/-- The bracket groups of the written form. -/
def groups (o : OptionSet) : List Text := if o.entries = [] then [] else [o.inside]

/-- The groups of the options give the options back. -/
theorem Writable.readOptions (h : o.Writable) (start : Nat) :
    readOptions start o.groups = pure o := by
  have hall : (o.entries.map writeEntry).foldlM (RuleText.addOption start) .empty = pure o := by
    rw [List.foldlM_map, Noted.foldlM_pure fun p e he => (h e he).addOption start p]
    exact congrArg pure (WriteOnce.empty_insertAll o)
  rw [RuleText.readOptions, ← hall]
  congr 1
  unfold groups
  split
  · rename_i hn
    rw [hn]
    rfl
  · rename_i hn
    rw [List.flatMap_singleton]
    refine splitOn_join (by simpa using hn) fun t ht => ?_
    obtain ⟨e, he, rfl⟩ := List.mem_map.mp ht
    exact (h e he).plainOption.not_mem _ (by simp)

end OptionSet
end PageRules
