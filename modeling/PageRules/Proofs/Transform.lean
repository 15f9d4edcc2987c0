import Mathlib
import PageRules.Transform

/-!
# Addresses are joined once

Joining a value to a base gives an address or leaves the value as it is. An address is not joined
again, and a value that cannot be joined cannot be joined the second time either, so a list that
joins and does nothing else gives at once what it gives at last (`applyAll_urlJoin_idempotent`).
-/

namespace PageRules.Transform

variable {base : Option Url} {value name : Text} {names : List Text}

/-! ## Names -/

/-- The text is one of the two names of joining, in any letter case and with white space around. -/
def SpellsUrlJoin (name : Text) : Prop :=
  Text.lower (Text.trim name) ∈ ["url-join".toList, "urljoin".toList]

instance (name : Text) : Decidable (SpellsUrlJoin name) :=
  inferInstanceAs (Decidable (Text.lower (Text.trim name) ∈ _))

theorem ofName_of_spellsUrlJoin (h : SpellsUrlJoin name) : ofName name = .ok .urlJoin := by
  have hname : Text.lower (Text.trim name) = "url-join".toList ∨
      Text.lower (Text.trim name) = "urljoin".toList := by simpa [SpellsUrlJoin] using h
  unfold ofName
  obtain h | h := hname <;> rw [h] <;> rfl

/-- Every name of the list is one of joining, or that of no transform. -/
def JoinsOnly (names : List Text) : Prop :=
  ∀ name ∈ names, SpellsUrlJoin name ∨ ∃ e, ofName name = .error e

/-! ## One value -/

/-- What a base is joined to is written so that it reads as a URL again. -/
def JoinedReads (base : Option Url) (value : Text) : Prop :=
  ∀ b ∈ base, ∀ joined, b.join value = .ok joined → ∃ url, Url.read joined.render = .ok url

/-- Joining leaves the value as it is. -/
def Fixed (base : Option Url) (value : Text) : Prop := urlJoined base value = value

theorem fixed_nil : Fixed base [] := by
  unfold Fixed urlJoined
  cases base <;> rfl

theorem fixed_of_read {url : Url} (h : Url.read value = .ok url) : Fixed base value := by
  unfold Fixed urlJoined
  cases base with
  | none => rfl
  | some b => simp only [h, ite_self]

/-- Joining gives an address that it is joined to, or the value. -/
theorem urlJoined_cases (base : Option Url) (value : Text) :
    urlJoined base value = value ∨
      ∃ b ∈ base, ∃ joined, b.join value = .ok joined ∧ urlJoined base value = joined.render := by
  unfold urlJoined
  split
  · exact .inl rfl
  rename_i b
  split
  · exact .inl rfl
  split
  · exact .inl rfl
  split
  · rename_i joined hj
    exact .inr ⟨b, rfl, joined, hj, rfl⟩
  · exact .inl rfl

theorem fixed_urlJoined (h : JoinedReads base value) : Fixed base (urlJoined base value) := by
  obtain hv | ⟨b, hb, joined, hj, hv⟩ := urlJoined_cases base value
  · rw [hv]
    exact hv
  · obtain ⟨url, hread⟩ := h b hb joined hj
    rw [hv]
    exact fixed_of_read hread

/-! ## Lists of names -/

theorem applyAll_cons_of_join (h : SpellsUrlJoin name) :
    applyAll base (name :: names) value = applyAll base names (urlJoined base value) := by
  rw [applyAll, List.foldl_cons, ofName_of_spellsUrlJoin h]
  rfl

theorem applyAll_cons_of_unknown {e : UnknownTransform} (h : ofName name = .error e) :
    applyAll base (name :: names) value = applyAll base names value := by
  rw [applyAll, List.foldl_cons, h]
  rfl

namespace JoinsOnly

variable (h : JoinsOnly names)
include h

theorem applyAll_of_fixed (hv : Fixed base value) : applyAll base names value = value := by
  induction names with
  | nil => rfl
  | cons name names ih =>
    obtain ⟨hname, hnames⟩ := List.forall_mem_cons.mp h
    obtain hjoin | ⟨e, he⟩ := hname
    · rw [applyAll_cons_of_join hjoin, hv]
      exact ih hnames
    · rw [applyAll_cons_of_unknown he]
      exact ih hnames

/-- The first name that joins does all there is to do. -/
theorem applyAll_cases (hv : Fixed base (urlJoined base value)) :
    applyAll base names value = value ∨ applyAll base names value = urlJoined base value := by
  induction names with
  | nil => exact .inl rfl
  | cons name names ih =>
    obtain ⟨hname, hnames⟩ := List.forall_mem_cons.mp h
    obtain hjoin | ⟨e, he⟩ := hname
    · rw [applyAll_cons_of_join hjoin]
      exact .inr (applyAll_of_fixed hnames hv)
    · rw [applyAll_cons_of_unknown he]
      exact ih hnames

end JoinsOnly

/-- A list that joins values and does nothing else gives the same when it is applied again, where
what a base is joined to reads as a URL. An address stays as it is written, and so does an empty
value. -/
theorem applyAll_urlJoin_idempotent (h : JoinsOnly names) (base : Option Url) (value : Text) :
    (JoinedReads base value →
      applyAll base names (applyAll base names value) = applyAll base names value) ∧
    ((∃ url, Url.read value = .ok url) → applyAll base names value = value) ∧
    applyAll base names [] = [] := by
  refine ⟨fun hread => ?_, ?_, h.applyAll_of_fixed fixed_nil⟩
  · have hfixed : Fixed base (urlJoined base value) := fixed_urlJoined hread
    obtain hv | hv := h.applyAll_cases hfixed
    · rw [hv, hv]
    · rw [hv]
      exact h.applyAll_of_fixed hfixed
  · rintro ⟨url, hread⟩
    exact h.applyAll_of_fixed (fixed_of_read hread)

/-- The address of a page on a host. -/
def pageAddress : Url where
  scheme := "hub".toList
  authority := some { host := some (.domain "a.b".toList) }
  path := .segments ["vod".toList, "1".toList]

/-- The page in front of it, with a query. -/
def joinedAddress : Url :=
  { pageAddress with path := .segments ["2".toList], query := some "q".toList }

/-- A list that names joining twice, in two spellings, with a name between them that is none. -/
def joinNames : List Text := [" URL-Join ".toList, "price".toList, "urljoin".toList]

/-- A relative reference with a space before it. -/
def reference : Text := " ../2?q".toList

/-- The reference becomes an address, and the address stays. -/
theorem applyAll_urlJoin_idempotent_reference :
    JoinsOnly joinNames ∧ JoinedReads (some pageAddress) reference ∧
    applyAll (some pageAddress) joinNames reference = "hub://a.b/2?q".toList ∧
    applyAll (some pageAddress) joinNames "hub://a.b/2?q".toList = "hub://a.b/2?q".toList := by
  have hnames : JoinsOnly joinNames := by
    refine List.forall_mem_cons.mpr ⟨.inl ?_, List.forall_mem_cons.mpr ⟨.inr ?_, ?_⟩⟩
    · decide
    · exact ⟨⟨"price".toList⟩, rfl⟩
    · exact List.forall_mem_singleton.mpr (.inl (by decide))
  have hread : JoinedReads (some pageAddress) reference := by
    have hjoin : pageAddress.join reference = .ok joinedAddress := by decide +kernel
    rintro _ ⟨⟩ joined hj
    obtain rfl := Except.ok.inj (hjoin.symm.trans hj)
    exact ⟨joinedAddress, by decide +kernel⟩
  have honce : applyAll (some pageAddress) joinNames reference = "hub://a.b/2?q".toList := by
    decide +kernel
  refine ⟨hnames, hread, honce, ?_⟩
  have htwice := (applyAll_urlJoin_idempotent hnames (some pageAddress) reference).1 hread
  rwa [honce] at htwice

end PageRules.Transform
