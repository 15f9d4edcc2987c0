import Mathlib
import PageRules.Proofs.RuleText.Scopes

/-!
# Declaration order decides

The scopes of a text are made from its path blocks, less those without a pattern, without a section,
without a glob, or with a pattern that is taken. Selecting from the scopes is selecting from all
blocks by their order alone (`select_eq_declaredRules`): a block that makes no scope governs no
path, or else an earlier block governs all the paths that it does.
-/

namespace PageRules

namespace PathScope

variable {s r : PathScope} {scopes : List PathScope} {path : Text}

/-- Which paths a scope matches depends on its pattern alone. -/
theorem matchesPath_congr (h : s.pattern = r.pattern) (path : Text) :
    s.matchesPath path = r.matchesPath path := by
  have hglob : s.glob = r.glob := Glob.ext h
  rw [matchesPath, matchesPath, hglob, h]

theorem select_singleton (s : PathScope) (path : Text) :
    select [s] path = if s.matchesPath path then s.rules else [] := by
  rw [select, List.find?_singleton]
  cases s.matchesPath path <;> rfl

theorem select_append (scopes more : List PathScope) (path : Text) :
    select (scopes ++ more) path =
      if scopes.any (·.matchesPath path) then select scopes path else select more path := by
  rw [select, select, select, List.find?_append, ← List.isSome_find?]
  cases scopes.find? (·.matchesPath path) <;> rfl

theorem select_of_not_matches (h : scopes.any (·.matchesPath path) = false) :
    select scopes path = [] := by
  have hnone : scopes.find? (·.matchesPath path) = none :=
    List.find?_eq_none.mpr (by simpa using h)
  rw [select, hnone]

end PathScope

namespace RuleText

variable {b : Block} {path : Text}

/-- The block has a pattern and a section, and the pattern is a glob that matches the path. -/
def Block.governs (b : Block) (path : Text) : Bool :=
  b.header.text ≠ [] && !(sections b.body).value.isEmpty &&
    match PathScope.of b.header.text (sections b.body).value with
    | .ok s => s.matchesPath path
    | .error _ => false

/-- The rules of the first block that governs a path. -/
def declaredRules (blocks : List Block) (path : Text) : List Rule :=
  match blocks.find? (·.governs path) with
  | some b => (sections b.body).value
  | none => []

theorem declaredRules_cons (b : Block) (blocks : List Block) (path : Text) :
    declaredRules (b :: blocks) path =
      if b.governs path then (sections b.body).value else declaredRules blocks path := by
  rw [declaredRules, List.find?_cons]
  cases b.governs path <;> rfl

/-! ## Blocks and their scopes -/

theorem Block.governs_eq (b : Block) (path : Text) :
    b.governs path = (scope? [] b).value.any (·.matchesPath path) := by
  unfold Block.governs scope?
  dsimp only
  by_cases hpattern : b.header.text = []
  · simp [hpattern]
  rw [if_neg hpattern, List.any_nil, if_neg Bool.false_ne_true, Noted.value_bind]
  by_cases hrules : (sections b.body).value.isEmpty = true
  · simp [hrules]
  rw [if_neg hrules]
  cases PathScope.of b.header.text (sections b.body).value <;> simp [hpattern, hrules]

/-- Where no scope before it matches a path, a block makes a scope for the path if it governs it. A
block whose pattern is taken governs none of those paths. -/
theorem any_scope? {scopes : List PathScope} (h : scopes.any (·.matchesPath path) = false)
    (b : Block) : (scope? scopes b).value.any (·.matchesPath path) = b.governs path := by
  rw [value_scope?, Block.governs_eq]
  split
  · rename_i hknown
    obtain ⟨r, hr, hpattern⟩ := List.any_eq_true.mp hknown
    cases hs : (scope? [] b).value with
    | none => rfl
    | some s =>
      have hsame : s.pattern = r.pattern :=
        (scope?_eq_some hs).1.trans (beq_iff_eq.mp hpattern).symm
      have hother : r.matchesPath path = false := by
        simpa using List.any_eq_false.mp h r hr
      rw [Option.any_none, Option.any_some, PathScope.matchesPath_congr hsame, hother]
  · rfl

/-- Blocks add the rules that they declare, for the paths that no scope before them matches. -/
theorem select_foldlM_addScope (blocks : List Block) (scopes : List PathScope) (path : Text) :
    PathScope.select (blocks.foldlM addScope scopes).value path =
      if scopes.any (·.matchesPath path) then PathScope.select scopes path
      else declaredRules blocks path := by
  induction blocks generalizing scopes with
  | nil =>
    change PathScope.select scopes path = _
    split
    · rfl
    · rename_i h
      exact PathScope.select_of_not_matches (Bool.not_eq_true _ ▸ h)
  | cons b blocks ih =>
    rw [List.foldlM_cons, Noted.value_bind, ih, value_addScope, List.any_append,
      PathScope.select_append, declaredRules_cons]
    cases hknown : scopes.any (·.matchesPath path) with
    | true => rfl
    | false =>
      have hgoverns := any_scope? hknown b
      cases hs : (scope? scopes b).value with
      | none =>
        rw [hs, Option.any_none] at hgoverns
        rw [← hgoverns]
        rfl
      | some s =>
        rw [hs, Option.any_some] at hgoverns
        rw [← hgoverns, Option.toList_some, PathScope.select_singleton, (scope?_eq_some hs).2]
        cases hm : s.matchesPath path <;> simp [hm]

/-! ## Blocks that change nothing -/

/-- The block behind others has no pattern, no section or no glob, or the pattern of one of them
that makes a scope. -/
inductive Block.Idle (before : List Block) (b : Block) : Prop
  | noPattern (h : b.header.text = [])
  | noSection (h : (sections b.body).value = [])
  | noGlob {e : Glob.Error} (h : Glob.ofPattern b.header.text = .error e)
  | duplicate {a : Block} {s : PathScope} (ha : a ∈ before)
    (hs : PathScope.of a.header.text (sections a.body).value = .ok s)
    (hsection : (sections a.body).value ≠ []) (h : b.header.text = a.header.text)

/-- Some blocks less some that are idle. -/
inductive Thinned : List Block → List Block → Prop
  | refl (blocks : List Block) : Thinned blocks blocks
  | drop {before after kept : List Block} {b : Block} (h : b.Idle before)
    (hk : Thinned (before ++ after) kept) : Thinned (before ++ b :: after) kept

theorem Block.governs_iff (b : Block) (path : Text) :
    b.governs path = true ↔ b.header.text ≠ [] ∧ (sections b.body).value ≠ [] ∧
      ∃ s, PathScope.of b.header.text (sections b.body).value = .ok s ∧
        s.matchesPath path = true := by
  unfold Block.governs
  cases PathScope.of b.header.text (sections b.body).value <;> simp [and_assoc]

/-- An idle block governs a path only where a block before it does. -/
theorem Block.Idle.exists_governs {before : List Block} (h : b.Idle before)
    (hg : b.governs path = true) : ∃ a ∈ before, a.governs path = true := by
  obtain ⟨hpattern, hsection, s, hs, hmatches⟩ := (b.governs_iff path).mp hg
  cases h with
  | noPattern h => exact absurd h hpattern
  | noSection h => exact absurd h hsection
  | noGlob h =>
    rw [PathScope.of, h] at hs
    cases hs
  | @duplicate a r ha hr hsection h =>
    refine ⟨a, ha, (a.governs_iff path).mpr ⟨h ▸ hpattern, hsection, r, hr, ?_⟩⟩
    have hsame : r.pattern = s.pattern := by
      rw [(of_eq_ok hr).1, (of_eq_ok hs).1, h]
    rw [PathScope.matchesPath_congr hsame, hmatches]

theorem declaredRules_append_idle {before : List Block} (h : b.Idle before) (after : List Block)
    (path : Text) :
    declaredRules (before ++ b :: after) path = declaredRules (before ++ after) path := by
  rw [declaredRules, declaredRules, List.find?_append, List.find?_append]
  cases hbefore : before.find? (·.governs path) with
  | some a => rfl
  | none =>
    have hb : b.governs path = false := by
      rw [Bool.eq_false_iff]
      intro hg
      obtain ⟨a, ha, hga⟩ := h.exists_governs hg
      exact List.find?_eq_none.mp hbefore a ha hga
    rw [List.find?_cons, hb]

theorem Thinned.declaredRules_eq {blocks kept : List Block} (h : Thinned blocks kept)
    (path : Text) : declaredRules blocks path = declaredRules kept path := by
  induction h with
  | refl => rfl
  | drop hb _ ih => rw [declaredRules_append_idle hb, ih]

/-- In a text with path blocks, the rules for a path are those of the first block that governs it,
and they stay the same where blocks are dropped that are idle. -/
theorem select_eq_declaredRules {raw : Text} (h : pathBlocks raw ≠ []) (path : Text) :
    (compile raw).select path = declaredRules (pathBlocks raw) path ∧
      ∀ kept, Thinned (pathBlocks raw) kept →
        (compile raw).select path = declaredRules kept path := by
  have hselect : (compile raw).select path = declaredRules (pathBlocks raw) path := by
    have hscopes : (compile raw).scopes = _ := value_scopes_of_paths h
    rw [Compilation.select, hscopes, select_foldlM_addScope]
    rfl
  exact ⟨hselect, fun kept hk => hselect.trans (hk.declaredRules_eq path)⟩

/-- A block of each kind that makes no scope, before and behind blocks that make one. -/
def crowdedText : Text :=
  ("path:\x7bsection:a a\x7b\x7d\x7d\npath:/[\x7bsection:b b\x7b\x7d\x7d\npath:/**\x7b\x7d\n" ++
    "path:/s/*\x7bsection:c c\x7b\x7d\x7d\npath:/s/*\x7bsection:d d\x7b\x7d\x7d\n" ++
    "path:/**\x7bsection:e e\x7b\x7d\x7d").toList

theorem select_eq_declaredRules_crowdedText :
    (pathBlocks crowdedText).map (·.governs "/s/1".toList) =
        [false, false, false, true, true, true] ∧
      ((compile crowdedText).select "/s/1".toList).map (·.name) = [['c']] ∧
      (compile crowdedText).select "/".toList =
        declaredRules ((pathBlocks crowdedText).drop 1) "/".toList := by
  -- One evaluation of the text serves all three.
  have hrun : (pathBlocks crowdedText).map (·.governs "/s/1".toList) =
        [false, false, false, true, true, true] ∧
      ((compile crowdedText).select "/s/1".toList).map (·.name) = [['c']] ∧
      (pathBlocks crowdedText).head?.map (·.header.text) = some [] := by decide +kernel
  obtain ⟨hgoverns, hselect, hfirst⟩ := hrun
  cases hblocks : pathBlocks crowdedText with
  | nil =>
    rw [hblocks] at hgoverns
    cases hgoverns
  | cons b blocks =>
    rw [hblocks] at hgoverns hfirst
    have hp : pathBlocks crowdedText ≠ [] := hblocks ▸ List.cons_ne_nil b blocks
    have hidle : b.Idle [] := .noPattern (Option.some.inj hfirst)
    have hthinned : Thinned (pathBlocks crowdedText) blocks :=
      hblocks ▸ .drop hidle (.refl blocks)
    exact ⟨hgoverns, hselect, (select_eq_declaredRules hp _).2 blocks hthinned⟩

end RuleText
end PageRules
