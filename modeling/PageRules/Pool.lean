/-! Pools of values that are made once for a key and shared from then on. -/

namespace PageRules

/-- The values by key, newest first. -/
structure Pool (κ α : Type) where
  entries : List (κ × α) := []

namespace Pool

variable {κ α : Type} [DecidableEq κ]

def size (p : Pool κ α) : Nat := p.entries.length

def get? (p : Pool κ α) (key : κ) : Option α := p.entries.lookup key

/-- Adds a value under a new key. A full pool is emptied first. -/
def add (p : Pool κ α) (cap : Nat) (key : κ) (a : α) : Pool κ α :=
  ⟨(key, a) :: if cap ≤ p.size then [] else p.entries⟩

/-- The value of a key, which is made if it is not there. -/
def obtain {m : Type → Type} [Monad m] (p : Pool κ α) (cap : Nat) (key : κ) (make : m α) :
    m (α × Pool κ α) :=
  match p.get? key with
  | some a => pure (a, p)
  | none => do
    let a ← make
    return (a, p.add cap key a)

/-- Replaces the value of a key that is there. -/
def update (p : Pool κ α) (key : κ) (a : α) : Pool κ α :=
  ⟨p.entries.map fun (k, b) => (k, if k = key then a else b)⟩

@[simp] theorem get?_add_self (p : Pool κ α) (cap : Nat) (key : κ) (a : α) :
    (p.add cap key a).get? key = some a := by
  simp [get?, add]

omit [DecidableEq κ] in
/-- No addition takes a pool past its cap. -/
theorem size_add_le (p : Pool κ α) {cap : Nat} (key : κ) (a : α) (hc : 1 ≤ cap) :
    (p.add cap key a).size ≤ cap := by
  unfold add
  split
  · simpa [size] using hc
  · simp only [size, List.length_cons] at *
    omega

@[simp] theorem size_update (p : Pool κ α) (key : κ) (a : α) : (p.update key a).size = p.size := by
  simp [size, update]

end Pool
end PageRules
