import Mathlib
import PageRules.Proofs.Text.Solid
import PageRules.Url.Host

/-!
# Hosts without white space and slashes

Percent encoding leaves no white space behind where the set of a part takes spaces in. A domain name
in ASCII has none because its labels are checked for it and punycode writes letters and digits, and
an address has none because it is made of numbers. For the same reasons no slash stands in a host.
-/

namespace PageRules

open Text (Solid Compact)

/-! ## Percent encoding -/

namespace Url

variable {encodes : Char → Bool}

/-- The set takes in every character of white space. -/
def EncodesBlank (encodes : Char → Bool) : Prop := ∀ c, Text.isBlank c = true → encodes c = true

/-- Beside a space, all white space is a control or outside ASCII. -/
theorem isControl_of_isBlank {c : Char} (hc : Text.isBlank c = true) (hs : c ≠ ' ') :
    isControl c = true := by
  have hcode : c.toNat ≠ 0x20 := fun h => hs (Char.toNat_inj.mp h)
  rw [Text.isBlank_iff] at hc
  simp only [Text.blankCodes, List.mem_cons, List.not_mem_nil, or_false] at hc
  simp only [isControl, Bool.or_eq_true, decide_eq_true_eq]
  omega

/-- The set for fragments takes in all white space. -/
theorem encodesBlank_fragment : EncodesBlank encodesFragment := by
  intro c hc
  by_cases hs : c = ' '
  · subst hs; rfl
  · rw [encodesFragment, isControl_of_isBlank hc hs, Bool.true_or]

theorem encodesBlank_query : EncodesBlank encodesQuery := by
  intro c hc
  by_cases hs : c = ' '
  · subst hs; rfl
  · rw [encodesQuery, isControl_of_isBlank hc hs, Bool.true_or]

theorem encodesBlank_specialQuery : EncodesBlank encodesSpecialQuery := fun c hc => by
  rw [encodesSpecialQuery, encodesBlank_query c hc, Bool.true_or]

theorem encodesBlank_path : EncodesBlank encodesPath := fun c hc => by
  rw [encodesPath, encodesBlank_fragment c hc, Bool.true_or]

theorem encodesBlank_userinfo : EncodesBlank encodesUserinfo := fun c hc => by
  rw [encodesUserinfo, encodesBlank_path c hc, Bool.true_or]

/-- What percent encoding writes for a byte. -/
theorem forall_mem_encodeByte {P : Char → Prop} (hmark : P '%') (hdigit : ∀ n < 16, P (hexDigit n))
    (b : UInt8) : ∀ c ∈ encodeByte b, P c := by
  have hb := b.toNat_lt
  have hhigh : P (hexDigit (b.toNat / 16)) := hdigit _ (by omega)
  have hlow : P (hexDigit (b.toNat % 16)) := hdigit _ (by omega)
  simp [encodeByte, hmark, hhigh, hlow]

/-- A character is written as itself or in percent code. -/
theorem forall_mem_encodeChar {P : Char → Prop} (hmark : P '%')
    (hdigit : ∀ n < 16, P (hexDigit n)) {c : Char} (hc : encodes c = false → P c) :
    ∀ d ∈ encodeChar encodes c, P d := by
  unfold encodeChar
  split
  · intro d hd
    obtain ⟨b, -, hb⟩ := List.mem_flatMap.mp hd
    exact forall_mem_encodeByte hmark hdigit b d hb
  · rename_i he
    exact List.forall_mem_singleton.mpr (hc (Bool.eq_false_iff.mpr he))

/-- What is kept and what percent encoding writes makes up the encoded text. -/
theorem forall_mem_percentEncode {P : Char → Prop} (hmark : P '%')
    (hdigit : ∀ n < 16, P (hexDigit n)) {t : Text} (h : ∀ c ∈ t, encodes c = false → P c) :
    ∀ d ∈ percentEncode encodes t, P d := by
  intro d hd
  obtain ⟨c, hc, hcd⟩ := List.mem_flatMap.mp hd
  exact forall_mem_encodeChar hmark hdigit (h c hc) d hcd

theorem isBlank_hexDigit {n : Nat} (hn : n < 16) : Text.isBlank (hexDigit n) = false := by
  interval_cases n <;> rfl

/-- Percent code has no white space in it. -/
theorem solid_encodeChar {c : Char} (hc : Text.isBlank c = true → encodes c = true) :
    Solid (encodeChar encodes c) := by
  have hclear (he : encodes c = false) : Text.isBlank c = false :=
    Bool.eq_false_iff.mpr fun hb => Bool.eq_false_iff.mp he (hc hb)
  exact forall_mem_encodeChar (P := fun c => Text.isBlank c = false) rfl
    (fun _ => isBlank_hexDigit) hclear

theorem encodeChar_ne_nil (encodes : Char → Bool) (c : Char) : encodeChar encodes c ≠ [] := by
  unfold encodeChar
  split
  · obtain ⟨b, bs, hbs⟩ := List.exists_cons_of_ne_nil (String.utf8EncodeChar_ne_nil (c := c))
    simp [hbs, encodeByte]
  · exact List.cons_ne_nil _ _

/-- A set that takes in all white space leaves none behind. -/
theorem EncodesBlank.solid (h : EncodesBlank encodes) (t : Text) :
    Solid (percentEncode encodes t) :=
  .flatMap fun c _ => solid_encodeChar (h c)

theorem compact_hexDigit {n : Nat} (hn : n < 16) :
    Text.isBlank (hexDigit n) = false ∧ hexDigit n ≠ '/' := by
  interval_cases n <;> decide

theorem compact_encodeChar {c : Char}
    (hc : encodes c = false → Text.isBlank c = false ∧ c ≠ '/') : Compact (encodeChar encodes c) :=
  forall_mem_encodeChar (P := fun c => Text.isBlank c = false ∧ c ≠ '/') ⟨rfl, by decide⟩
    (fun _ => compact_hexDigit) hc

/-! ## Punycode -/

namespace Punycode

theorem threshold_le (k bias : Nat) : threshold k bias ≤ 26 := by
  unfold threshold; omega

/-- Punycode counts in base 36. -/
theorem digits_lt (k bias q : Nat) : ∀ d ∈ digits k bias q, d < 36 := by
  fun_induction digits k bias q with
  | case1 k q t h =>
    have ht : t ≤ 26 := threshold_le k bias
    simp only [List.mem_singleton, forall_eq]
    omega
  | case2 k q t h ih =>
    have ht : t ≤ 26 := threshold_le k bias
    have hmod : (q - t) % (36 - t) < 36 - t := Nat.mod_lt _ (by omega)
    exact List.forall_mem_cons.mpr ⟨by omega, ih⟩

theorem compact_digitChar {d : Nat} (hd : d < 36) :
    Text.isBlank (digitChar d) = false ∧ digitChar d ≠ '/' := by
  interval_cases d <;> decide

/-- What the encoder has written are digits. -/
def Encoder.Sound (e : Encoder) : Prop := ∀ d ∈ e.output, d < 36

/-- Every step of the encoder adds digits of base 36 alone. -/
theorem Encoder.Sound.pass {e : Encoder} (h : e.Sound) (n : Nat) (c : Char) :
    (e.pass n c).Sound := by
  unfold Encoder.pass
  split
  · exact h
  split
  · exact List.forall_mem_append.mpr ⟨h, digits_lt _ _ _⟩
  · exact h

theorem Encoder.Sound.foldl_pass {e : Encoder} (h : e.Sound) (n : Nat) (t : Text) :
    (t.foldl (Encoder.pass n) e).Sound := by
  induction t generalizing e with
  | nil => exact h
  | cons c t ih => exact ih (h.pass n c)

theorem Encoder.Sound.place {e : Encoder} (h : e.Sound) (label : Text) (n : Nat) :
    (e.place label n).Sound :=
  Encoder.Sound.foldl_pass
    (e := { e with delta := e.delta + (n - e.next) * (e.placed + 1), next := n }) h n label

theorem Encoder.Sound.foldl_place {e : Encoder} (h : e.Sound) (label : Text) (ns : List Nat) :
    (ns.foldl (Encoder.place label) e).Sound := by
  induction ns generalizing e with
  | nil => exact h
  | cons n ns ih => exact ih (h.place label n)

/-- The code of a label is ASCII characters of the label, hyphens and digits. -/
theorem compact_encode {label : Text}
    (h : ∀ c ∈ label, isAscii c = true → Text.isBlank c = false ∧ c ≠ '/') :
    Compact (encode label) := by
  have hbasic : Compact (label.filter isAscii) := by
    intro c hc
    obtain ⟨hm, ha⟩ := List.mem_filter.mp hc
    exact h c hm ha
  have hstart : Encoder.Sound { placed := (label.filter isAscii).length } := by
    simp [Encoder.Sound]
  have hend := hstart.foldl_place label (extended label)
  refine (hbasic.append ?_).append fun c hc => ?_
  · split
    · exact .nil
    · exact .cons rfl (by decide) .nil
  · obtain ⟨d, hd, rfl⟩ := List.mem_map.mp hc
    exact compact_digitChar (hend d hd)

end Punycode

/-! ## Domain names -/

namespace Domain

/-- A character of ASCII that may stand in a domain name is neither white space nor a slash. -/
theorem compact_of_not_isForbidden {c : Char} (hf : isForbidden c = false)
    (ha : Punycode.isAscii c = true) : Text.isBlank c = false ∧ c ≠ '/' := by
  constructor
  · simp only [isForbidden, Bool.or_eq_false_iff, decide_eq_false_iff_not] at hf
    simp only [Punycode.isAscii, decide_eq_true_eq] at ha
    exact Text.isBlank_of_ascii (by omega) (by omega)
  · rintro rfl
    exact absurd hf (by decide)

theorem compact_writeLabel {label : Text} (h : ∀ c ∈ label, isForbidden c = false) :
    Compact (writeLabel label) := by
  unfold writeLabel
  split
  · rename_i ha
    exact fun c hc => compact_of_not_isForbidden (h c hc) (List.all_eq_true.mp ha c hc)
  · have hace : Compact acePart := by simp [acePart, Compact, Text.isBlank]
    exact hace.append
      (Punycode.compact_encode fun c hc => compact_of_not_isForbidden (h c hc))

/-- A domain name has neither white space nor a slash: its labels are checked, and the dots between
them are neither. -/
theorem compact_toAscii? {t name : Text} (h : toAscii? t = some name) : Compact name := by
  unfold toAscii? at h
  obtain ⟨mapped, -, h⟩ := Option.bind_eq_some_iff.mp h
  obtain ⟨labels, -, h⟩ := Option.bind_eq_some_iff.mp h
  obtain ⟨_, hg, h⟩ := Option.bind_eq_some_iff.mp h
  cases h
  have hclear : (∀ label ∈ labels, ∀ c ∈ label, isForbidden c = false) ∧
      ∀ label ∈ labels, acceptsLabel (labels.any runsBackward) label = true := by
    simpa using hg
  refine Text.forall_mem_join (Compact.cons rfl (by decide) .nil) fun written hw => ?_
  obtain ⟨label, hl, rfl⟩ := List.mem_map.mp hw
  exact compact_writeLabel (hclear.1 label hl)

end Domain
end Url

/-! ## Hosts -/

namespace Host

/-- The host is written without white space and slashes. -/
def Sound (h : Host) : Prop := Compact h.render

theorem compact_renderIpv4 (address : Nat) : Compact (renderIpv4 address) := by
  refine Text.forall_mem_join (Compact.cons rfl (by decide) .nil) fun part hp => ?_
  obtain ⟨i, -, rfl⟩ := List.mem_map.mp hp
  exact Text.compact_toDigits 10 _

theorem compact_renderPieces (pieces : List Nat) : Compact (renderPieces pieces) := by
  refine Text.forall_mem_join (Compact.cons rfl (by decide) .nil) fun part hp => ?_
  obtain ⟨piece, -, rfl⟩ := List.mem_map.mp hp
  exact Text.compact_toDigits 16 piece

/-- An address in brackets is made of digits, letters and colons. -/
theorem compact_renderIpv6 (pieces : List Nat) : Compact (renderIpv6 pieces) := by
  have hcolons : Compact [':', ':'] := .cons rfl (by decide) (.cons rfl (by decide) .nil)
  unfold renderIpv6
  split
  split
  · exact compact_renderPieces pieces
  · exact ((compact_renderPieces _).append hcolons).append (compact_renderPieces _)

/-- Only the name of a domain may have white space or a slash in it. -/
theorem sound_of_domain {h : Host} (hd : ∀ name, h = .domain name → Compact name) : h.Sound := by
  cases h with
  | domain name => exact hd name rfl
  | ipv4 address => exact compact_renderIpv4 address
  | ipv6 pieces =>
    have hclose : Compact [']'] := .cons rfl (by decide) .nil
    exact .cons rfl (by decide) ((compact_renderIpv6 pieces).append hclose)

theorem bracketed?_ne_domain {t name : Text} : bracketed? t ≠ .ok (.domain name) := by
  unfold bracketed?
  split
  · simp
  · split <;> simp

/-- A host that was read is written without white space and slashes. -/
theorem sound_of_read {t : Text} {h : Host} (hr : read t = .ok h) : h.Sound := by
  refine sound_of_domain ?_
  rintro name rfl
  unfold read at hr
  split at hr
  · exact absurd hr bracketed?_ne_domain
  split at hr
  · cases hr
  · cases hr
  rename_i ascii ha
  obtain ⟨bytes, -, ha⟩ := Option.bind_eq_some_iff.mp ha
  split at hr
  · split at hr <;> cases hr
  · cases hr
    exact Url.Domain.compact_toAscii? ha

/-- What a name without structure may hold is encoded, or is neither white space nor a slash. -/
theorem compact_of_not_isOpaqueForbidden {c : Char} (hf : isOpaqueForbidden c = false)
    (he : Url.isControl c = false) : Text.isBlank c = false ∧ c ≠ '/' := by
  constructor
  · rw [Bool.eq_false_iff] at he ⊢
    intro hb
    refine he (Url.isControl_of_isBlank hb ?_)
    rintro rfl
    exact absurd hf (by decide)
  · rintro rfl
    exact absurd hf (by decide)

theorem sound_of_readOpaque {t : Text} {h : Host} (hr : readOpaque t = .ok h) : h.Sound := by
  refine sound_of_domain ?_
  rintro name rfl
  unfold readOpaque at hr
  split at hr
  · exact absurd hr bracketed?_ne_domain
  split at hr
  · cases hr
  · rename_i hf
    cases hr
    simp only [List.any_eq_true, not_exists, not_and, Bool.not_eq_true] at hf
    intro d hd
    obtain ⟨c, hc, hcd⟩ := List.mem_flatMap.mp hd
    exact Url.compact_encodeChar (compact_of_not_isOpaqueForbidden (hf c hc)) d hcd

end Host
end PageRules
