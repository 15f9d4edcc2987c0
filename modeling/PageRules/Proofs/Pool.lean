import Mathlib
import PageRules.Pool

/-!
# Calls for shared values

A pool is called for values by their keys. What it shares are the addresses of the values in a
memory (`Call.run`). A call finds its key, or adds it, or clears a full pool for it (`Call.Step`).
So in every run of calls the pool stays within its cap, a value is made exactly where its key is
absent and never changes from then on, and two calls for a key share a value exactly as long as the
pool is not cleared between them (`events_shared`).
-/

namespace PageRules.Pool

variable {κ ω α : Type}

/-! ## Memory -/

/-- The values that were made, each at its address, and the world in which they are made. -/
structure Memory (ω α : Type) where
  world : ω
  values : List α

/-- Makes a value and puts it at a new address. -/
def Memory.allocate (make : StateM ω α) : StateM (Memory ω α) Nat := fun memory =>
  let (value, world) := make.run memory.world
  (memory.values.length, ⟨world, memory.values ++ [value]⟩)

/-- The memory after a value was made. -/
def Memory.grown (memory : Memory ω α) (make : StateM ω α) : Memory ω α :=
  (Memory.allocate make memory).2

theorem Memory.values_grown (memory : Memory ω α) (make : StateM ω α) :
    (memory.grown make).values = memory.values ++ [(make.run memory.world).1] := rfl

/-- A pool of addresses, and the memory into which they lead. -/
structure Store (κ ω α : Type) where
  pool : Pool κ Nat
  memory : Memory ω α

namespace Store

/-- No value is shared, and none was made. -/
def empty (world : ω) : Store κ ω α := ⟨{}, ⟨world, []⟩⟩

/-- The pool is within its cap, has no key twice, and leads to values. -/
structure Sound (cap : Nat) (s : Store κ ω α) : Prop where
  size_le : s.pool.size ≤ cap
  nodup : (s.pool.entries.map Prod.fst).Nodup
  made : ∀ e ∈ s.pool.entries, e.2 < s.memory.values.length

theorem sound_empty (cap : Nat) (world : ω) : (empty world : Store κ ω α).Sound cap :=
  ⟨Nat.zero_le _, List.nodup_nil, by simp [empty]⟩

/-- All addresses of the pool are new since the memory had `bound` values. -/
structure NewSince (bound : Nat) (s : Store κ ω α) : Prop where
  le_length : bound ≤ s.memory.values.length
  le_address : ∀ e ∈ s.pool.entries, bound ≤ e.2

end Store

/-! ## Calls -/

/-- A call for the value of a key, with what makes the value where the key is absent. -/
structure Call (κ ω α : Type) where
  key : κ
  make : StateM ω α

/-- A call in a run, with what it gives and what it finds and leaves. -/
structure Event (κ ω α : Type) where
  call : Call κ ω α
  address : Nat
  before : Store κ ω α
  after : Store κ ω α

variable [DecidableEq κ] {p : Pool κ α} {key : κ} {a : α}

theorem not_mem_keys (h : p.get? key = none) : key ∉ p.entries.map Prod.fst := by
  intro hm
  obtain ⟨e, he, rfl⟩ := List.mem_map.mp hm
  simpa using List.lookup_eq_none_iff.mp h e he

theorem mem_entries (h : p.get? key = some a) : (key, a) ∈ p.entries := by
  obtain ⟨before, after, he, -⟩ := List.lookup_eq_some_iff.mp h
  rw [he]
  exact List.mem_append_right _ List.mem_cons_self

theorem isSome_get?_of_mem (h : (key, a) ∈ p.entries) : (p.get? key).isSome := by
  rw [Option.isSome_iff_ne_none]
  intro hnone
  exact not_mem_keys hnone (List.mem_map_of_mem h)

/-- An absent key is added without loss. -/
theorem get?_cons_of_get? {other : κ} (hnone : p.get? key = none) (h : p.get? other = some a)
    (b : α) : (⟨(key, b) :: p.entries⟩ : Pool κ α).get? other = some a := by
  have hne : other ≠ key := by
    rintro rfl
    cases hnone.symm.trans h
  rw [get?, List.lookup_cons, beq_eq_false_iff_ne.mpr hne]
  exact h

/-- The address that a call gives, and what it leaves. -/
def Call.run (cap : Nat) (call : Call κ ω α) (s : Store κ ω α) : Nat × Store κ ω α :=
  let ((address, pool), memory) :=
    (s.pool.obtain cap call.key (Memory.allocate call.make)).run s.memory
  (address, ⟨pool, memory⟩)

def Call.event (cap : Nat) (call : Call κ ω α) (s : Store κ ω α) : Event κ ω α :=
  ⟨call, (call.run cap s).1, s, (call.run cap s).2⟩

/-- Calls one after another. -/
def events (cap : Nat) (s : Store κ ω α) : List (Call κ ω α) → List (Event κ ω α)
  | [] => []
  | call :: rest => call.event cap s :: events cap (call.event cap s).after rest

/-- A key that the pool held is gone. -/
def Store.Loses (s after : Store κ ω α) : Prop :=
  ∃ key, (s.pool.get? key).isSome ∧ after.pool.get? key = none

/-- The call cleared the pool. -/
def Event.Clears (e : Event κ ω α) : Prop := e.before.Loses e.after

/-- What a call does. -/
inductive Call.Step (cap : Nat) (call : Call κ ω α) (s : Store κ ω α) : Nat → Store κ ω α → Prop
  | found {address : Nat} (h : s.pool.get? call.key = some address) : Step cap call s address s
  | added (h : s.pool.get? call.key = none) (hroom : s.pool.size < cap) :
    Step cap call s s.memory.values.length
      ⟨⟨(call.key, s.memory.values.length) :: s.pool.entries⟩, s.memory.grown call.make⟩
  | cleared (h : s.pool.get? call.key = none) (hfull : cap ≤ s.pool.size) :
    Step cap call s s.memory.values.length
      ⟨⟨[(call.key, s.memory.values.length)]⟩, s.memory.grown call.make⟩

theorem Call.step_run (cap : Nat) (call : Call κ ω α) (s : Store κ ω α) :
    call.Step cap s (call.run cap s).1 (call.run cap s).2 := by
  unfold run obtain
  cases h : s.pool.get? call.key with
  | some address => exact .found h
  | none =>
    change call.Step cap s s.memory.values.length
      ⟨s.pool.add cap call.key s.memory.values.length, s.memory.grown call.make⟩
    unfold add
    split
    · exact .cleared h ‹_›
    · exact .added h (Nat.lt_of_not_le ‹_›)

namespace Call.Step

variable {cap address bound : Nat} {call : Call κ ω α} {s after : Store κ ω α}
  (h : call.Step cap s address after)
include h

theorem held : after.pool.get? call.key = some address := by
  cases h with
  | found h => exact h
  | added => exact List.lookup_cons_self
  | cleared => exact List.lookup_cons_self

/-- No value that was made changes. -/
theorem isPrefix : s.memory.values <+: after.memory.values := by
  cases h with
  | found => exact List.prefix_refl _
  | added => exact List.prefix_append ..
  | cleared => exact List.prefix_append ..

theorem sound (hc : 1 ≤ cap) (hs : s.Sound cap) : after.Sound cap := by
  have hgrown {n : Nat} (hn : n ≤ s.memory.values.length) :
      n < (s.memory.grown call.make).values.length := by
    rw [Memory.values_grown, List.length_append]
    exact Nat.lt_succ_of_le hn
  cases h with
  | found => exact hs
  | added hnone hroom =>
    refine ⟨hroom, List.nodup_cons.mpr ⟨not_mem_keys hnone, hs.nodup⟩, ?_⟩
    intro e he
    rcases List.mem_cons.mp he with rfl | he
    · exact hgrown (Nat.le_refl _)
    · exact hgrown (hs.made e he).le
  | cleared =>
    refine ⟨hc, List.nodup_singleton _, ?_⟩
    intro e he
    cases List.mem_singleton.mp he
    exact hgrown (Nat.le_refl _)

theorem newSince (hs : s.NewSince bound) : bound ≤ address ∧ after.NewSince bound := by
  have hlength : bound ≤ after.memory.values.length := hs.le_length.trans h.isPrefix.length_le
  cases h with
  | found h => exact ⟨hs.le_address _ (mem_entries h), hs⟩
  | added =>
    refine ⟨hs.le_length, hlength, ?_⟩
    intro e he
    rcases List.mem_cons.mp he with rfl | he
    · exact hs.le_length
    · exact hs.le_address e he
  | cleared =>
    refine ⟨hs.le_length, hlength, ?_⟩
    intro e he
    cases List.mem_singleton.mp he
    exact hs.le_length

end Call.Step

/-! ## One call -/

variable {cap bound : Nat} {call : Call κ ω α} {s : Store κ ω α} {e : Event κ ω α}

/-- What a call in a run does. The pool holds the key with the address that is given, which leads to
a value. The value was made in this call exactly where the key was absent. The pool was cleared
exactly where the key was absent and the pool full, and else holds all that it held. -/
structure Event.Served (cap : Nat) (e : Event κ ω α) : Prop where
  size_le : e.after.pool.size ≤ cap
  nodup : (e.after.pool.entries.map Prod.fst).Nodup
  held : e.after.pool.get? e.call.key = some e.address
  found : ∀ address, e.before.pool.get? e.call.key = some address →
    e.address = address ∧ e.after = e.before
  absent : e.before.pool.get? e.call.key = none →
    e.address = e.before.memory.values.length ∧ e.after.memory = e.before.memory.grown e.call.make
  clears_iff : e.Clears ↔ e.before.pool.get? e.call.key = none ∧ e.before.pool.size = cap
  cleared : e.Clears → e.after.pool.entries = [(e.call.key, e.address)]
  kept : ¬ e.Clears → ∀ key address, e.before.pool.get? key = some address →
    e.after.pool.get? key = some address

theorem Store.not_loses {after : Store κ ω α}
    (h : ∀ key a, s.pool.get? key = some a → after.pool.get? key = some a) : ¬ s.Loses after := by
  rintro ⟨key, hsome, hnone⟩
  obtain ⟨a, ha⟩ := Option.isSome_iff_exists.mp hsome
  rw [h key a ha] at hnone
  cases hnone

/-- Where nothing is left but a key that was absent, all that was there is gone. -/
theorem Store.loses_of_singleton {key : κ} (hpos : 0 < s.pool.size) (hnone : s.pool.get? key = none)
    (address : Nat) (memory : Memory ω α) : s.Loses ⟨⟨[(key, address)]⟩, memory⟩ := by
  obtain ⟨⟨other, a⟩, hm⟩ := List.exists_mem_of_length_pos hpos
  have hne : other ≠ key := by
    rintro rfl
    exact not_mem_keys hnone (List.mem_map_of_mem hm)
  refine ⟨other, isSome_get?_of_mem hm, ?_⟩
  rw [get?, List.lookup_cons, beq_eq_false_iff_ne.mpr hne]
  rfl

theorem Call.Step.served {address : Nat} {after : Store κ ω α} (h : call.Step cap s address after)
    (hc : 1 ≤ cap) (hs : s.Sound cap) : Event.Served cap ⟨call, address, s, after⟩ := by
  have hsound := h.sound hc hs
  have hheld := h.held
  cases h with
  | found haddress =>
    have hnot : ¬ s.Loses s := Store.not_loses fun _ _ h => h
    exact {
      size_le := hsound.size_le
      nodup := hsound.nodup
      held := hheld
      found := fun other hother => ⟨Option.some.inj (haddress.symm.trans hother), rfl⟩
      absent := fun hnone => by cases haddress.symm.trans hnone
      clears_iff := iff_of_false hnot fun h => by cases haddress.symm.trans h.1
      cleared := fun h => absurd h hnot
      kept := fun _ _ _ h => h }
  | added hnone hroom =>
    have hkept {key : κ} {a : Nat} (h : s.pool.get? key = some a) :=
      get?_cons_of_get? hnone h s.memory.values.length
    have hnot : ¬ s.Loses ⟨⟨(call.key, s.memory.values.length) :: s.pool.entries⟩,
        s.memory.grown call.make⟩ := Store.not_loses fun _ _ h => hkept h
    exact {
      size_le := hsound.size_le
      nodup := hsound.nodup
      held := hheld
      found := fun other hother => by cases hnone.symm.trans hother
      absent := fun _ => ⟨rfl, rfl⟩
      clears_iff := iff_of_false hnot fun h => hroom.ne h.2
      cleared := fun h => absurd h hnot
      kept := fun _ _ _ h => hkept h }
  | cleared hnone hfull =>
    have hclears := Store.loses_of_singleton (hc.trans hfull) hnone s.memory.values.length
      (s.memory.grown call.make)
    exact {
      size_le := hsound.size_le
      nodup := hsound.nodup
      held := hheld
      found := fun other hother => by cases hnone.symm.trans hother
      absent := fun _ => ⟨rfl, rfl⟩
      clears_iff := iff_of_true hclears ⟨hnone, hs.size_le.antisymm hfull⟩
      cleared := fun _ => rfl
      kept := fun h => absurd hclears h }

/-! ## Runs -/

theorem events_split {calls : List (Call κ ω α)} {earlier : List (Event κ ω α)}
    {rest : List (Event κ ω α)} (h : events cap s calls = earlier ++ e :: rest) :
    ∃ more, rest = events cap e.after more := by
  induction calls generalizing s earlier with
  | nil => simp [events] at h
  | cons call calls ih =>
    cases earlier with
    | nil =>
      obtain ⟨rfl, rfl⟩ := List.cons.inj h
      exact ⟨calls, rfl⟩
    | cons first earlier => exact ih (List.cons.inj h).2

/-- What every call keeps holds where a call of a run begins. -/
theorem before_of_events {P : Store κ ω α → Prop} {Q : Event κ ω α → Prop}
    (hstep : ∀ call s, P s → Q (Call.event cap call s) → P (Call.event cap call s).after)
    {calls : List (Call κ ω α)} {mid later : List (Event κ ω α)} (hs : P s)
    (h : events cap s calls = mid ++ e :: later) (hmid : ∀ q ∈ mid, Q q) :
    P e.before ∧ e.call.Step cap e.before e.address e.after := by
  induction calls generalizing s mid with
  | nil => simp [events] at h
  | cons call calls ih =>
    cases mid with
    | nil =>
      obtain ⟨rfl, -⟩ := List.cons.inj h
      exact ⟨hs, call.step_run cap s⟩
    | cons q mid =>
      obtain ⟨rfl, hrest⟩ := List.cons.inj h
      obtain ⟨hq, hmid⟩ := List.forall_mem_cons.mp hmid
      exact ih (hstep call s hs hq) hrest hmid

section

variable {calls : List (Call κ ω α)} {mid later : List (Event κ ω α)} {q : Event κ ω α}

theorem sound_before_of_events (hc : 1 ≤ cap) (hs : s.Sound cap)
    (h : events cap s calls = mid ++ e :: later) :
    e.before.Sound cap ∧ e.call.Step cap e.before e.address e.after :=
  before_of_events (P := Store.Sound cap) (Q := fun _ => True)
    (fun call s hs _ => (call.step_run cap s).sound hc hs) hs h fun _ _ => trivial

theorem served_of_events (hc : 1 ≤ cap) (hs : s.Sound cap)
    (h : events cap s calls = mid ++ e :: later) : e.Served cap := by
  obtain ⟨hsound, hstep⟩ := sound_before_of_events hc hs h
  exact hstep.served hc hsound

/-- The values that were made before a run are there throughout. -/
theorem isPrefix_of_events (h : events cap s calls = mid ++ e :: later) :
    s.memory.values <+: e.before.memory.values ∧
      e.before.memory.values <+: e.after.memory.values := by
  obtain ⟨hbefore, hstep⟩ := before_of_events
    (P := fun t => s.memory.values <+: t.memory.values) (Q := fun _ => True)
    (fun call t ht _ => ht.trans (call.step_run cap t).isPrefix) (List.prefix_refl _) h
    fun _ _ => trivial
  exact ⟨hbefore, hstep.isPrefix⟩

/-- What a call gives leads to a value, which stays as it is. -/
theorem value_of_events (hc : 1 ≤ cap) (hs : s.Sound cap)
    (h : events cap s calls = mid ++ e :: later) (hq : q ∈ mid ++ [e]) :
    ∃ value, q.after.memory.values[q.address]? = some value ∧
      e.after.memory.values[q.address]? = some value := by
  have hlt {q : Event κ ω α} {mid later : List (Event κ ω α)}
      (h : events cap s calls = mid ++ q :: later) : q.address < q.after.memory.values.length := by
    obtain ⟨hsound, hstep⟩ := sound_before_of_events hc hs h
    exact (hstep.sound hc hsound).made _ (mem_entries hstep.held)
  rcases List.mem_append.mp hq with hq | hq
  · obtain ⟨front, back, rfl⟩ := List.append_of_mem hq
    rw [List.append_assoc, List.cons_append] at h
    obtain ⟨more, hmore⟩ := events_split h
    obtain ⟨hbefore, hafter⟩ := isPrefix_of_events hmore.symm
    obtain ⟨rest, hrest⟩ := hbefore.trans hafter
    have hvalue := List.getElem?_eq_getElem (hlt h)
    refine ⟨_, hvalue, ?_⟩
    rw [← hrest, List.getElem?_append_left (hlt h), hvalue]
  · cases List.mem_singleton.mp hq
    exact ⟨_, List.getElem?_eq_getElem (hlt h), List.getElem?_eq_getElem _⟩

/-- What the pool holds before a run is given until the pool is cleared. -/
theorem address_of_events {address : Nat} (hc : 1 ≤ cap) (hs : s.Sound cap)
    (haddress : s.pool.get? e.call.key = some address)
    (h : events cap s calls = mid ++ e :: later) (hmid : ∀ q ∈ mid, ¬ q.Clears) :
    e.address = address := by
  obtain ⟨⟨-, hheld⟩, hstep⟩ := before_of_events
    (P := fun t => t.Sound cap ∧ t.pool.get? e.call.key = some address) (Q := fun q => ¬ q.Clears)
    (fun call t ht hq => by
      have hstep := call.step_run cap t
      exact ⟨hstep.sound hc ht.1, (hstep.served hc ht.1).kept hq _ _ ht.2⟩)
    ⟨hs, haddress⟩ h hmid
  exact ((served_of_events hc hs h).found address hheld).1

/-- What is given once the pool was cleared was made then or later. -/
theorem le_address_of_events (hc : 1 ≤ cap) (hs : s.Sound cap)
    (h : events cap s calls = mid ++ e :: later) (hq : q ∈ mid) (hclears : q.Clears) :
    s.memory.values.length ≤ e.address := by
  obtain ⟨front, back, rfl⟩ := List.append_of_mem hq
  rw [List.append_assoc, List.cons_append] at h
  have hserved := served_of_events hc hs h
  obtain ⟨hbefore, hafter⟩ := isPrefix_of_events h
  obtain ⟨hnew, -⟩ := hserved.absent (hserved.clears_iff.mp hclears).1
  have hbound : q.after.NewSince s.memory.values.length := by
    refine ⟨(hbefore.trans hafter).length_le, ?_⟩
    rw [hserved.cleared hclears, List.forall_mem_singleton, hnew]
    exact hbefore.length_le
  obtain ⟨more, hmore⟩ := events_split h
  obtain ⟨hnewSince, hstep⟩ := before_of_events (P := Store.NewSince s.memory.values.length)
    (Q := fun _ => True) (fun call t ht _ => ((call.step_run cap t).newSince ht).2) hbound
    hmore.symm fun _ _ => trivial
  exact (hstep.newSince hnewSince).1

end

/-- Starting with an empty pool, every call of a run is served, and the values of all calls before
it are as they were given. Two calls for a key are given the same address exactly where no call
between them cleared the pool. -/
theorem events_shared (world : ω) (hc : 1 ≤ cap) (calls : List (Call κ ω α)) :
    (∀ mid e later, events cap (.empty world) calls = mid ++ e :: later →
      e.Served cap ∧ ∀ p ∈ mid ++ [e], ∃ value, p.after.memory.values[p.address]? = some value ∧
        e.after.memory.values[p.address]? = some value) ∧
    ∀ earlier p mid e later,
      events cap (.empty world) calls = earlier ++ p :: (mid ++ e :: later) →
      p.call.key = e.call.key → (p.address = e.address ↔ ∀ q ∈ mid, ¬ q.Clears) := by
  have hempty := Store.sound_empty (κ := κ) (α := α) cap world
  constructor
  · intro mid e later h
    exact ⟨served_of_events hc hempty h, fun p hp => value_of_events hc hempty h hp⟩
  · intro earlier p mid e later h hkey
    obtain ⟨hsound, hstep⟩ := sound_before_of_events hc hempty h
    obtain ⟨more, hmore⟩ := events_split h
    have hafter := hstep.sound hc hsound
    constructor
    · intro heq q hq hclears
      have hle := le_address_of_events hc hafter hmore.symm hq hclears
      have hlt := hafter.made _ (mem_entries hstep.held)
      rw [heq] at hlt
      exact absurd hlt (Nat.not_lt.mpr hle)
    · intro hmid
      exact (address_of_events hc hafter (hkey ▸ hstep.held) hmore.symm hmid).symm

/-- Makes a value and counts it. -/
def counted (c : Char) : StateM Nat Char := do
  modify (· + 1)
  return c

/-- Calls for more keys than a pool of two holds. -/
def crowdedCalls : List (Call Nat Nat Char) :=
  [⟨1, counted 'a'⟩, ⟨1, counted 'b'⟩, ⟨2, counted 'c'⟩, ⟨3, counted 'd'⟩, ⟨1, counted 'e'⟩]

theorem events_shared_crowdedCalls :
    1 ≤ 2 ∧ (events 2 (.empty 0) crowdedCalls).map (·.after.memory.world) = [1, 1, 2, 3, 4] ∧
    ∃ first again other third last,
      events 2 (.empty 0) crowdedCalls = [first, again, other, third, last] ∧
      first.call.key = again.call.key ∧ first.address = again.address ∧
      first.call.key = last.call.key ∧ first.address ≠ last.address ∧ last.Served 2 := by
  obtain ⟨hserved, hshared⟩ := events_shared 0 (by decide : 1 ≤ 2) crowdedCalls
  refine ⟨by decide, rfl, _, _, _, _, _, rfl, rfl, ?_, rfl, fun heq => ?_, ?_⟩
  · exact (hshared [] _ [] _ _ rfl rfl).mpr (by simp)
  · -- the third key cleared the pool
    refine (hshared [] _ ((events 2 (.empty 0) (crowdedCalls.take 4)).drop 1) _ [] rfl rfl).mp heq
      _ (List.getElem_mem (by decide : 2 < 3)) ⟨1, rfl, rfl⟩
  · exact (hserved (events 2 (.empty 0) (crowdedCalls.take 4)) _ [] rfl).1

end PageRules.Pool
