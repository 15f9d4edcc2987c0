import Mathlib
import PageRules.WriteOnce

/-! # Entries of write-once maps -/

namespace PageRules.WriteOnce

variable {κ α : Type} {m : WriteOnce κ α} {k j : κ} {v : α}

/-- The entries that satisfy `p`, in order. -/
def filter (m : WriteOnce κ α) (p : κ × α → Bool) : WriteOnce κ α where
  entries := m.entries.filter p
  nodup := m.nodup.sublist (List.filter_sublist.map Prod.fst)

@[simp] theorem keys_empty : (empty : WriteOnce κ α).keys = [] := rfl

theorem mem_keys_of_mem_entries {e : κ × α} (h : e ∈ m.entries) : e.1 ∈ m.keys :=
  List.mem_map_of_mem h

variable [DecidableEq κ]

theorem insert_of_contains (h : m.contains k = true) : m.insert k v = m :=
  insert_of_mem (contains_iff.mp h)

@[simp] theorem mem_keys_insert : j ∈ (m.insert k v).keys ↔ j ∈ m.keys ∨ j = k := by
  rw [keys_insert]
  split
  · rename_i h
    constructor
    · exact .inl
    · rintro (hj | rfl)
      · exact hj
      · exact h
  · simp

theorem mem_entries_insert {e : κ × α} (h : e ∈ (m.insert k v).entries) :
    e ∈ m.entries ∨ e = (k, v) := by
  by_cases hk : k ∈ m.keys
  · rw [insert_of_mem hk] at h
    exact .inl h
  · rw [entries_insert_of_not_mem hk] at h
    simpa using h

/-- What holds of the keys of a map and of those written to it holds of all keys afterwards. -/
theorem forall_keys_insertAll {p : κ → Prop} {es : List (κ × α)} (hm : ∀ k ∈ m.keys, p k)
    (he : ∀ e ∈ es, p e.1) : ∀ k ∈ (m.insertAll es).keys, p k := by
  induction es generalizing m with
  | nil => exact hm
  | cons e es ih =>
    rw [insertAll_cons]
    refine ih (fun k hk => ?_) fun e' h => he e' (List.mem_cons_of_mem _ h)
    rcases mem_keys_insert.mp hk with hk | rfl
    · exact hm k hk
    · exact he e List.mem_cons_self

theorem entries_insertAll {es : List (κ × α)} (h : (m.keys ++ es.map Prod.fst).Nodup) :
    (m.insertAll es).entries = m.entries ++ es := by
  induction es generalizing m with
  | nil => simp
  | cons e es ih =>
    have hk : e.1 ∉ m.keys := by
      intro hk
      exact List.disjoint_of_nodup_append h hk (by simp)
    have he : (m.insert e.1 e.2).entries = m.entries ++ [e] := entries_insert_of_not_mem hk
    have hkeys : (m.insert e.1 e.2).keys = m.keys ++ [e.1] := by rw [keys, he]; simp [keys]
    rw [insertAll_cons, ih (by simpa [hkeys] using h), he, List.append_assoc]
    rfl

/-- A map is rebuilt by writing its entries in order. -/
theorem empty_insertAll (m : WriteOnce κ α) : empty.insertAll m.entries = m :=
  ext (entries_insertAll m.nodup)

theorem lookup_eq_none {es : List (κ × α)} (h : k ∉ es.map Prod.fst) : es.lookup k = none := by
  rw [List.lookup_eq_none_iff]
  intro e he
  rw [bne_iff_ne]
  rintro rfl
  exact h (List.mem_map_of_mem he)

theorem get?_of_mem (h : (k, v) ∈ m.entries) : m.get? k = some v := by
  obtain ⟨before, after, he⟩ := List.append_of_mem h
  have hn := m.nodup
  rw [he, List.map_append, List.map_cons] at hn
  have hk : k ∉ before.map Prod.fst := fun hm =>
    List.disjoint_of_nodup_append hn hm List.mem_cons_self
  rw [get?, he, List.lookup_append, lookup_eq_none hk, List.lookup_cons_self]
  rfl

theorem mem_entries_of_get? (h : m.get? k = some v) : (k, v) ∈ m.entries := by
  obtain ⟨before, after, he, -⟩ := List.lookup_eq_some_iff.mp h
  rw [he]
  exact List.mem_append_right before List.mem_cons_self

/-- What holds of every value of a map and of a default holds of what is read with the default. -/
theorem forall_getD {p : α → Prop} {v : α} (hv : p v) (h : ∀ e ∈ m.entries, p e.2) (k : κ) :
    p ((m.get? k).getD v) := by
  cases hk : m.get? k with
  | none => exact hv
  | some u => exact h (k, u) (mem_entries_of_get? hk)

theorem isSome_get?_iff : (m.get? k).isSome ↔ k ∈ m.keys := by
  rw [get?, List.lookup_isSome_iff]
  simp [keys]

/-- The first write to a key is the one that is read. -/
theorem get?_insert (j : κ) :
    (m.insert k v).get? j = (m.get? j).or (if j = k then some v else none) := by
  by_cases hk : k ∈ m.keys
  · rw [insert_of_mem hk]
    split
    · rename_i hj
      subst hj
      obtain ⟨u, hu⟩ := Option.isSome_iff_exists.mp (isSome_get?_iff.mpr hk)
      rw [hu, Option.some_or]
    · rw [Option.or_none]
  · rw [get?, entries_insert_of_not_mem hk, List.lookup_append, List.lookup_cons, List.lookup_nil]
    by_cases hj : j = k
    · simp [get?, hj]
    · rw [beq_eq_false_iff_ne.mpr hj, if_neg hj]
      rfl

/-- Of many writes to a key, the first one is read, unless the key was there before. -/
theorem get?_insertAll (es : List (κ × α)) (j : κ) :
    (m.insertAll es).get? j = (m.get? j).or (es.lookup j) := by
  induction es generalizing m with
  | nil => rw [insertAll_nil, List.lookup_nil, Option.or_none]
  | cons e es ih =>
    rw [insertAll_cons, ih, get?_insert, Option.or_assoc, List.lookup_cons]
    by_cases hj : j = e.1
    · rw [if_pos hj, beq_iff_eq.mpr hj, Option.some_or]
    · rw [if_neg hj, beq_eq_false_iff_ne.mpr hj, Option.none_or]

/-- The entries in order, without those whose key an earlier entry has. -/
def firstEntries (es : List (κ × α)) : List (κ × α) := es.eraseDupsBy fun e f => e.1 == f.1

theorem firstEntries_cons (e : κ × α) (es : List (κ × α)) :
    firstEntries (e :: es) = e :: firstEntries (es.filter fun f => f.1 ≠ e.1) := by
  rw [firstEntries, List.eraseDupsBy_cons, firstEntries]
  congr 3
  funext f
  exact decide_eq_decide.mpr beq_eq_false_iff_ne

/-- Writing entries adds the first one of each new key. -/
theorem entries_insertAll_eq (es : List (κ × α)) :
    (m.insertAll es).entries = m.entries ++ firstEntries (es.filter fun e => e.1 ∉ m.keys) := by
  induction es generalizing m with
  | nil => exact (List.append_nil _).symm
  | cons e es ih =>
    rw [insertAll_cons, ih]
    by_cases he : e.1 ∈ m.keys
    · rw [insert_of_mem he, List.filter_cons_of_neg (by simpa using he)]
    · have hnew : (es.filter fun f => f.1 ∉ (m.insert e.1 e.2).keys) =
          (es.filter fun f => f.1 ∉ m.keys).filter fun f => f.1 ≠ e.1 := by
        rw [List.filter_filter]
        refine List.filter_congr fun f _ => ?_
        simp [and_comm]
      rw [hnew, entries_insert_of_not_mem he, List.filter_cons_of_pos (by simpa using he),
        firstEntries_cons, List.append_assoc]
      rfl

theorem entries_ofList (es : List (κ × α)) : (ofList es).entries = firstEntries es := by
  have hall : (es.filter fun e => e.1 ∉ (empty : WriteOnce κ α).keys) = es :=
    List.filter_eq_self.mpr fun e _ => by simp
  rw [ofList, entries_insertAll_eq, hall]
  rfl

theorem get?_ofList (es : List (κ × α)) (j : κ) : (ofList es).get? j = es.lookup j :=
  get?_insertAll es j

/-- A key that is kept has the value that it had. -/
theorem get?_filterKeys {p : κ → Bool} (hk : p k = true) : (m.filterKeys p).get? k = m.get? k := by
  change (m.entries.filter (p ·.1)).lookup k = m.entries.lookup k
  induction m.entries with
  | nil => rfl
  | cons e entries ih =>
    rw [List.filter_cons]
    split
    · rw [List.lookup_cons, List.lookup_cons, ih]
    · rename_i hp
      have hne : (k == e.1) = false := by
        rw [beq_eq_false_iff_ne]
        rintro rfl
        exact hp hk
      rw [List.lookup_cons, hne]
      exact ih

theorem get?_filterKeys_of_not {p : κ → Bool} (hk : p k = false) :
    (m.filterKeys p).get? k = none := by
  refine lookup_eq_none fun h => ?_
  obtain ⟨e, he, rfl⟩ := List.mem_map.mp h
  have hp := (List.mem_filter.mp he).2
  rw [hk] at hp
  cases hp

/-- Keys in the order of the entries pick the entries out, whatever keys stand between them. -/
theorem filterMap_lookup {es : List (κ × α)} {ks : List κ} (hs : (es.map Prod.fst).Sublist ks)
    (hn : ks.Nodup) : ks.filterMap (fun k => (es.lookup k).map fun v => (k, v)) = es := by
  induction ks generalizing es with
  | nil => simpa using hs
  | cons k ks ih =>
    obtain ⟨hk, hks⟩ := List.nodup_cons.mp hn
    rcases List.sublist_cons_iff.mp hs with hs | ⟨js, hjs, hs⟩
    · rw [List.filterMap_cons, lookup_eq_none fun h => hk (hs.subset h)]
      exact ih hs hks
    · obtain ⟨⟨j, v⟩, es, rfl, rfl, rfl⟩ := List.map_eq_cons_iff.mp hjs
      have hrest : ks.filterMap (fun k => (((j, v) :: es).lookup k).map fun v => (k, v)) =
          ks.filterMap (fun k => (es.lookup k).map fun v => (k, v)) := by
        refine List.filterMap_congr fun i hi => ?_
        have hij : (i == j) = false := by
          rw [beq_eq_false_iff_ne]
          rintro rfl
          exact hk hi
        rw [List.lookup_cons, hij]
      rw [List.filterMap_cons, hrest, ih hs hks, List.lookup_cons_self]
      rfl

end PageRules.WriteOnce
