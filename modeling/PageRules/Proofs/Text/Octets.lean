import Mathlib
import PageRules.Proofs.Text.Bytes
import PageRules.Proofs.Text.Split

/-!
# Bytes as characters

A reader that looks for ASCII characters alone can run over the bytes of a text in place of its
characters: no byte of a longer encoding is mistaken for one of them. Bytes are read as the
characters of their numbers (`octets`), so that one definition reads both. What it cuts out of the
bytes is the encoding of what it cuts out of the text.
-/

namespace PageRules.Text

/-- The bytes of a text, each as the character of its number. -/
def octets (t : Text) : Text := (bytes t).map fun b => Char.ofNat b.toNat

/-- The number of bytes in front of a position. -/
def byteOffset (t : Text) (p : Nat) : Nat := (octets (t.take p)).length

variable {c d : Char} {s t : Text} {p q : Nat}

@[simp] theorem octets_nil : octets [] = [] := rfl

@[simp] theorem octets_append (s t : Text) : octets (s ++ t) = octets s ++ octets t := by
  rw [octets, bytes_append, List.map_append]
  rfl

theorem octets_cons (c : Char) (t : Text) : octets (c :: t) = octets [c] ++ octets t :=
  octets_append [c] t

/-- A character of ASCII is its own byte. -/
theorem octets_ascii (h : c.toNat < 0x80) : octets [c] = [c] := by
  have hbytes : bytes [c] = [UInt8.ofNat c.toNat] := by
    rw [← utf8EncodeChar_of_ascii h]
    exact List.append_nil _
  rw [octets, hbytes, List.map_singleton, UInt8.toNat_ofNat_of_lt' (h.trans (by decide)),
    Char.ofNat_toNat]

theorem octets_cons_of_ascii (h : c.toNat < 0x80) (t : Text) : octets (c :: t) = c :: octets t := by
  rw [octets_cons, octets_ascii h]
  rfl

/-- The bytes of other characters are none of ASCII. -/
theorem le_of_mem_octets (h : 0x80 ≤ c.toNat) (hd : d ∈ octets [c]) : 0x80 ≤ d.toNat := by
  obtain ⟨b, hb, rfl⟩ := List.mem_map.mp hd
  have hmem : b ∈ String.utf8EncodeChar c := by
    have hbytes : bytes [c] = String.utf8EncodeChar c := List.append_nil _
    rwa [hbytes] at hb
  have hvalid : b.toNat.isValidChar := .inl (b.toNat_lt.trans (by decide))
  rw [Char.ofNat, dif_pos hvalid]
  exact le_of_mem_utf8EncodeChar h hmem

/-- No byte of another character is mistaken for one of ASCII. -/
theorem not_mem_octets (hc : c ≠ d) (hd : d.toNat < 0x80 := by decide) : d ∉ octets [c] := by
  intro hm
  by_cases h : c.toNat < 0x80
  · rw [octets_ascii h, List.mem_singleton] at hm
    exact hc hm.symm
  · exact absurd hd (Nat.not_lt.mpr (le_of_mem_octets (Nat.le_of_not_lt h) hm))

theorem octets_singleton_ne_nil (c : Char) : octets [c] ≠ [] := by
  have hbytes : bytes [c] = String.utf8EncodeChar c := List.append_nil _
  rw [octets, hbytes, Ne, List.map_eq_nil_iff, ← List.length_eq_zero_iff,
    String.length_utf8EncodeChar]
  exact (Char.utf8Size_pos c).ne'

theorem isEmpty_octets (t : Text) : (octets t).isEmpty = t.isEmpty := by
  cases t with
  | nil => rfl
  | cons c t =>
    rw [octets_cons, List.isEmpty_eq_false_iff.mpr (by simp [octets_singleton_ne_nil])]
    rfl

/-- The encoding of two parts of a text. -/
def octetsOfParts : Text × Text → Text × Text := Prod.map octets octets

theorem map_prepend_octets (c : Char) (parts? : Option (Text × Text)) :
    (parts?.map octetsOfParts).map (fun (before, after) => (octets [c] ++ before, after)) =
      (parts?.map fun (before, after) => (c :: before, after)).map octetsOfParts := by
  cases parts? with
  | none => rfl
  | some parts => exact congrArg some (Prod.ext (octets_cons c parts.1).symm rfl)

/-! ## Offsets -/

theorem byteOffset_append (s t : Text) : byteOffset (s ++ t) s.length = (octets s).length := by
  rw [byteOffset, List.take_left]

/-- An offset grows by the bytes of what is passed. -/
theorem byteOffset_add {rest : Text} (h : t.drop p = s ++ rest) :
    byteOffset t (p + s.length) = byteOffset t p + (octets s).length := by
  rw [byteOffset, byteOffset, List.take_add, h, List.take_left, octets_append, List.length_append]

theorem byteOffset_mono (h : p ≤ q) : byteOffset t p ≤ byteOffset t q := by
  obtain ⟨n, rfl⟩ := Nat.exists_eq_add_of_le h
  rw [byteOffset, byteOffset, List.take_add, octets_append, List.length_append]
  exact Nat.le_add_right ..

/-- Every character has a byte. -/
theorem byteOffset_lt (hp : p < t.length) (h : p < q) : byteOffset t p < byteOffset t q := by
  refine Nat.lt_of_lt_of_le ?_ (byteOffset_mono h)
  have hdrop : t.drop p = [t[p]] ++ t.drop (p + 1) := List.drop_eq_getElem_cons hp
  have hadd := byteOffset_add hdrop
  rw [List.length_singleton] at hadd
  rw [Nat.succ_eq_add_one, hadd]
  exact Nat.lt_add_of_pos_right (List.length_pos_iff.mpr (octets_singleton_ne_nil _))

/-- Places of a text have offsets of their own. -/
theorem byteOffset_inj (hp : p ≤ t.length) (hq : q ≤ t.length) :
    byteOffset t p = byteOffset t q ↔ p = q := by
  refine ⟨fun h => ?_, congrArg _⟩
  rcases Nat.lt_trichotomy p q with hlt | heq | hlt
  · exact absurd h (byteOffset_lt (hlt.trans_le hq) hlt).ne
  · exact heq
  · exact absurd h (byteOffset_lt (hlt.trans_le hp) hlt).ne'

/-! ## Characters of ASCII -/

/-- Only characters of ASCII satisfy the predicate. -/
def AsciiOnly (p : Char → Bool) : Prop := ∀ c, 0x80 ≤ c.toNat → p c = false

theorem asciiOnly_beq (c : Char) (h : c.toNat < 0x80 := by decide) : AsciiOnly (· == c) := by
  intro d hd
  rw [beq_eq_false_iff_ne]
  rintro rfl
  omega

theorem AsciiOnly.or {f g : Char → Bool} (hf : AsciiOnly f) (hg : AsciiOnly g) :
    AsciiOnly fun c => f c || g c := by
  intro c hc
  exact Bool.or_eq_false_iff.mpr ⟨hf c hc, hg c hc⟩

namespace AsciiOnly

variable {f : Char → Bool} (hf : AsciiOnly f)
include hf

theorem ascii (hc : f c = true) : c.toNat < 0x80 := by
  refine Nat.lt_of_not_le fun h => ?_
  rw [hf c h] at hc
  cases hc

/-- The bytes of a character do not satisfy the predicate where it does not. -/
theorem eq_false_of_mem_octets (hc : f c = false) (hd : d ∈ octets [c]) : f d = false := by
  by_cases h : c.toNat < 0x80
  · rw [octets_ascii h, List.mem_singleton] at hd
    rwa [hd]
  · exact hf d (le_of_mem_octets (Nat.le_of_not_lt h) hd)

/-- So the bytes of a text begin with none of the characters where the text does. -/
theorem exists_octets_eq_cons (hc : f c = false) (t : Text) :
    ∃ o v, octets (c :: t) = o :: v ∧ f o = false := by
  obtain ⟨o, w, hw⟩ := List.exists_cons_of_ne_nil (octets_singleton_ne_nil c)
  refine ⟨o, w ++ octets t, ?_, hf.eq_false_of_mem_octets hc (hw ▸ List.mem_cons_self)⟩
  rw [octets_cons, hw, List.cons_append]

/-- Splitting the bytes gives the bytes of the parts. -/
theorem splitOnce_octets (t : Text) :
    splitOnce f (octets t) = (splitOnce f t).map octetsOfParts := by
  induction t with
  | nil => rfl
  | cons c t ih =>
    cases hc : f c with
    | true =>
      rw [octets_cons_of_ascii (hf.ascii hc), splitOnce, splitOnce, if_pos hc, if_pos hc]
      rfl
    | false =>
      rw [octets_cons, splitOnce_prepend (fun d => hf.eq_false_of_mem_octets hc), ih,
        map_prepend_octets, splitOnce, if_neg (by simp [hc])]

theorem dropWhile_octets (t : Text) : (octets t).dropWhile f = octets (t.dropWhile f) := by
  induction t with
  | nil => rfl
  | cons c t ih =>
    cases hc : f c with
    | true =>
      rw [octets_cons_of_ascii (hf.ascii hc), List.dropWhile_cons_of_pos hc,
        List.dropWhile_cons_of_pos hc, ih]
    | false =>
      obtain ⟨o, w, hw, ho⟩ := hf.exists_octets_eq_cons hc t
      rw [List.dropWhile_cons_of_neg (by simp [hc]), hw, List.dropWhile_cons_of_neg (by simp [ho])]

/-- The text up to the first character that satisfies the predicate. -/
theorem takeWhile_not_octets (t : Text) :
    (octets t).takeWhile (!f ·) = octets (t.takeWhile (!f ·)) := by
  induction t with
  | nil => rfl
  | cons c t ih =>
    cases hc : f c with
    | true =>
      rw [octets_cons_of_ascii (hf.ascii hc), List.takeWhile_cons_of_neg (by simp [hc]),
        List.takeWhile_cons_of_neg (by simp [hc])]
      rfl
    | false =>
      have hall : ∀ d ∈ octets [c], (!f d) = true := fun d hd => by
        rw [hf.eq_false_of_mem_octets hc hd]
        rfl
      rw [List.takeWhile_cons_of_pos (by simp [hc]), octets_cons,
        List.takeWhile_append_of_pos hall, ih, octets_cons c (t.takeWhile _)]

end AsciiOnly

end PageRules.Text
