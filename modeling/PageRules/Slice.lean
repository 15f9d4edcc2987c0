import PageRules.Rule.OptionSet

/-! Narrowing candidates by the `index` and `limit` options. -/

namespace PageRules

/-- The candidate at an index, or all of them where there is none. -/
def pick {α : Type} (index : Option Int) (candidates : List α) : List α :=
  match index with
  | some (.ofNat n) =>
    match candidates[n]? with
    | some a => [a]
    | none => candidates
  | _ => candidates

/-- The first candidates up to a limit; a limit of zero or less is none. -/
def truncate {α : Type} (limit : Option Int) (candidates : List α) : List α :=
  match limit with
  | some (.ofNat (n + 1)) => candidates.take (n + 1)
  | _ => candidates

/-- The candidates that the options leave: first by `index`, then by `limit`. -/
def slice {α : Type} (options : OptionSet) (candidates : List α) : List α :=
  truncate (options.integer? OptionKey.limit) (pick (options.integer? OptionKey.index) candidates)

theorem pick_sublist {α : Type} (index : Option Int) (l : List α) : (pick index l).Sublist l := by
  unfold pick
  split
  · split
    · exact List.singleton_sublist.mpr (List.mem_of_getElem? ‹_›)
    · exact .refl l
  · exact .refl l

theorem truncate_sublist {α : Type} (limit : Option Int) (l : List α) :
    (truncate limit l).Sublist l := by
  unfold truncate
  split
  · exact List.take_sublist _ _
  · exact .refl l

theorem slice_sublist {α : Type} (options : OptionSet) (l : List α) :
    (slice options l).Sublist l :=
  (truncate_sublist _ _).trans (pick_sublist _ _)

@[simp] theorem slice_nil {α : Type} (options : OptionSet) : slice options ([] : List α) = [] :=
  List.sublist_nil.mp (slice_sublist options [])

theorem pick_map {α β : Type} (f : α → β) (index : Option Int) (l : List α) :
    pick index (l.map f) = (pick index l).map f := by
  unfold pick
  split
  · rw [List.getElem?_map]
    rename_i n
    cases l[n]? <;> rfl
  · rfl

theorem truncate_map {α β : Type} (f : α → β) (limit : Option Int) (l : List α) :
    truncate limit (l.map f) = (truncate limit l).map f := by
  unfold truncate
  split
  · exact List.map_take.symm
  · rfl

/-- Narrowing goes by place alone. -/
theorem slice_map {α β : Type} (f : α → β) (options : OptionSet) (l : List α) :
    slice options (l.map f) = (slice options l).map f := by
  simp [slice, pick_map, truncate_map]

end PageRules
