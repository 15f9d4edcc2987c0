import Mathlib
import PageRules.Text.Bytes

/-!
# The bytes of a text

Bytes are read as a text exactly where they encode it, and no character but the null character has a
null byte in its encoding.
-/

namespace PageRules.Text

theorem mk_bytes (t : Text) : ByteArray.mk (bytes t).toArray = List.utf8Encode t := by
  rw [List.utf8Encode, ← bytes, ByteArray.ext_iff, List.data_toByteArray]

/-- Bytes are read as the text that they encode, and as none where they encode none. -/
theorem ofBytes?_eq_some_iff {b : List UInt8} {t : Text} : ofBytes? b = some t ↔ b = bytes t := by
  unfold ofBytes? String.fromUTF8?
  constructor
  · intro h
    split at h
    · rename_i hv
      have ht : (String.fromUTF8 _ hv).toList = t := by simpa using h
      have hb : (String.fromUTF8 _ hv).toByteArray = List.utf8Encode t := by
        rw [← ht, ← String.toByteArray_ofList, String.ofList_toList]
      rw [← mk_bytes] at hb
      simpa [String.fromUTF8] using hb
    · cases h
  · rintro rfl
    have hv : (ByteArray.mk (bytes t).toArray).IsValidUTF8 := ⟨t, mk_bytes t⟩
    rw [dif_pos hv]
    have hs : String.fromUTF8 _ hv = String.ofList t := by
      rw [← String.toByteArray_inj, String.toByteArray_ofList, ← mk_bytes]
      rfl
    rw [hs, Option.map_some, String.toList_ofList]

theorem bytes_injective : Function.Injective bytes := by
  intro s t h
  have hs : ofBytes? (bytes t) = some s := ofBytes?_eq_some_iff.mpr h.symm
  have ht : ofBytes? (bytes t) = some t := ofBytes?_eq_some_iff.mpr rfl
  exact Option.some.inj (hs.symm.trans ht)

/-! ## Bytes of a character -/

theorem utf8EncodeChar_of_ascii {c : Char} (h : c.toNat < 0x80) :
    String.utf8EncodeChar c = [UInt8.ofNat c.toNat] := by
  unfold String.utf8EncodeChar
  exact if_pos (Nat.le_of_lt_succ h)

/-- Every byte of a longer encoding has its highest bit. -/
theorem le_of_mem_utf8EncodeChar {c : Char} (h : 0x80 ≤ c.toNat) {b : UInt8}
    (hb : b ∈ String.utf8EncodeChar c) : 0x80 ≤ b.toNat := by
  have hhigh {n : Nat} (hn : 0x80 ≤ n ∧ n < 0x100) : 0x80 ≤ (UInt8.ofNat n).toNat := by
    rw [UInt8.toNat_ofNat_of_lt' hn.2]
    exact hn.1
  change 0x80 ≤ c.val.toNat at h
  unfold String.utf8EncodeChar at hb
  dsimp only at hb
  split at hb
  · omega
  split at hb
  · simp only [List.mem_cons, List.not_mem_nil, or_false] at hb
    rcases hb with rfl | rfl
    all_goals exact hhigh (by omega)
  split at hb
  · simp only [List.mem_cons, List.not_mem_nil, or_false] at hb
    rcases hb with rfl | rfl | rfl
    all_goals exact hhigh (by omega)
  · simp only [List.mem_cons, List.not_mem_nil, or_false] at hb
    rcases hb with rfl | rfl | rfl | rfl
    all_goals exact hhigh (by omega)

/-- A byte without its highest bit comes from the character that it encodes alone. -/
theorem ofNat_mem_utf8EncodeChar_iff {n : Nat} (hn : n < 0x80) {c : Char} :
    UInt8.ofNat n ∈ String.utf8EncodeChar c ↔ c.toNat = n := by
  have hbyte {m : Nat} (hm : m < 0x80) : (UInt8.ofNat m).toNat = m :=
    UInt8.toNat_ofNat_of_lt' (hm.trans (by decide))
  by_cases hc : c.toNat < 0x80
  · rw [utf8EncodeChar_of_ascii hc, List.mem_singleton, ← UInt8.toNat_inj, hbyte hn, hbyte hc,
      eq_comm]
  · refine iff_of_false (fun hm => ?_) (by omega)
    have := le_of_mem_utf8EncodeChar (Nat.le_of_not_lt hc) hm
    rw [hbyte hn] at this
    omega

/-- Where the byte of an ASCII character stands, the text has the character. -/
theorem exists_of_bytes_eq {c : Char} (hc : c.toNat < 0x80) {t : Text} {q r : List UInt8}
    (h : bytes t = q ++ UInt8.ofNat c.toNat :: r) :
    ∃ s u, t = s ++ c :: u ∧ q = bytes s ∧ r = bytes u := by
  induction t generalizing q with
  | nil => simp at h
  | cons d t ih =>
    change String.utf8EncodeChar d ++ bytes t = q ++ UInt8.ofNat c.toNat :: r at h
    by_cases hd : d = c
    · subst hd
      rw [utf8EncodeChar_of_ascii hc, List.singleton_append] at h
      rcases List.cons_eq_append_iff.mp h with ⟨rfl, hr⟩ | ⟨q', rfl, hq⟩
      · exact ⟨[], t, rfl, rfl, (List.cons.inj hr).2⟩
      · obtain ⟨s, u, rfl, rfl, rfl⟩ := ih hq
        refine ⟨d :: s, u, rfl, ?_, rfl⟩
        change _ = String.utf8EncodeChar d ++ bytes s
        rw [utf8EncodeChar_of_ascii hc]
        rfl
    · have hnot : UInt8.ofNat c.toNat ∉ String.utf8EncodeChar d := by
        rw [ofNat_mem_utf8EncodeChar_iff hc, Char.toNat_inj]
        exact hd
      rcases List.append_eq_append_iff.mp h with ⟨q', rfl, hq⟩ | ⟨w, hw, hr⟩
      · obtain ⟨s, u, rfl, rfl, rfl⟩ := ih hq
        exact ⟨d :: s, u, rfl, rfl, rfl⟩
      · cases w with
        | nil =>
          obtain ⟨s, u, rfl, hs, rfl⟩ := ih (q := []) hr.symm
          refine ⟨d :: s, u, rfl, ?_, rfl⟩
          rw [List.append_nil] at hw
          rw [← hw]
          change _ = String.utf8EncodeChar d ++ bytes s
          rw [← hs, List.append_nil]
        | cons b w =>
          obtain ⟨rfl, -⟩ := List.cons.inj hr
          exact absurd (hw ▸ List.mem_append_right _ List.mem_cons_self) hnot

theorem zero_mem_utf8EncodeChar_iff {c : Char} : 0 ∈ String.utf8EncodeChar c ↔ c = '\x00' := by
  rw [← Char.toNat_inj]
  exact ofNat_mem_utf8EncodeChar_iff (n := 0) (by decide)

/-- A null byte comes from a null character alone. -/
theorem zero_mem_bytes_iff {t : Text} : 0 ∈ bytes t ↔ '\x00' ∈ t := by
  simp [bytes, List.mem_flatMap, zero_mem_utf8EncodeChar_iff]

end PageRules.Text
