/-! Maps that keep their keys in the order of their first writes and let no later write replace an
earlier one. -/

namespace PageRules

structure WriteOnce (κ α : Type) where
  entries : List (κ × α) := []
  nodup : (entries.map Prod.fst).Nodup := by simp
  deriving DecidableEq

namespace WriteOnce

variable {κ α : Type}

def empty : WriteOnce κ α := {}

instance : Inhabited (WriteOnce κ α) := ⟨empty⟩

def size (m : WriteOnce κ α) : Nat := m.entries.length

def isEmpty (m : WriteOnce κ α) : Bool := m.entries.isEmpty

def keys (m : WriteOnce κ α) : List κ := m.entries.map Prod.fst

/-- The entries whose key satisfies `p`, in order. -/
def filterKeys (m : WriteOnce κ α) (p : κ → Bool) : WriteOnce κ α where
  entries := m.entries.filter (p ·.1)
  nodup := m.nodup.sublist (List.filter_sublist.map Prod.fst)

@[simp] theorem entries_empty : (empty : WriteOnce κ α).entries = [] := rfl

@[ext] theorem ext {m n : WriteOnce κ α} (h : m.entries = n.entries) : m = n := by
  cases m; cases n; cases h; rfl

variable [DecidableEq κ]

def contains (m : WriteOnce κ α) (k : κ) : Bool := m.keys.contains k

def get? (m : WriteOnce κ α) (k : κ) : Option α := m.entries.lookup k

/-- Writes an entry unless its key is present. -/
def insert (m : WriteOnce κ α) (k : κ) (v : α) : WriteOnce κ α :=
  if h : k ∈ m.keys then m
  else
    { entries := m.entries ++ [(k, v)]
      nodup := by
        rw [List.map_append, List.nodup_append]
        refine ⟨m.nodup, by simp, ?_⟩
        rintro a ha b hb rfl
        simp only [List.map_cons, List.map_nil, List.mem_singleton] at hb
        exact h (hb ▸ ha) }

/-- Writes entries one after another. -/
def insertAll (m : WriteOnce κ α) (entries : List (κ × α)) : WriteOnce κ α :=
  entries.foldl (fun m (k, v) => m.insert k v) m

def ofList (entries : List (κ × α)) : WriteOnce κ α := empty.insertAll entries

@[simp] theorem contains_iff {m : WriteOnce κ α} {k : κ} : m.contains k = true ↔ k ∈ m.keys := by
  simp [contains]

theorem insert_of_mem {m : WriteOnce κ α} {k : κ} {v : α} (h : k ∈ m.keys) : m.insert k v = m := by
  simp [insert, h]

theorem entries_insert_of_not_mem {m : WriteOnce κ α} {k : κ} {v : α} (h : k ∉ m.keys) :
    (m.insert k v).entries = m.entries ++ [(k, v)] := by
  simp [insert, h]

theorem keys_insert {m : WriteOnce κ α} {k : κ} {v : α} :
    (m.insert k v).keys = if k ∈ m.keys then m.keys else m.keys ++ [k] := by
  by_cases h : k ∈ m.keys
  · simp [insert_of_mem h, h]
  · simp [keys, entries_insert_of_not_mem h]; simp [keys] at h; simp [h]

@[simp] theorem insertAll_nil {m : WriteOnce κ α} : m.insertAll [] = m := rfl

@[simp] theorem insertAll_cons {m : WriteOnce κ α} {e : κ × α} {es : List (κ × α)} :
    m.insertAll (e :: es) = (m.insert e.1 e.2).insertAll es := rfl

theorem insertAll_append {m : WriteOnce κ α} {es fs : List (κ × α)} :
    m.insertAll (es ++ fs) = (m.insertAll es).insertAll fs := List.foldl_append

end WriteOnce
end PageRules
