import Mathlib
import PageRules.Proofs.Url.Written

/-!
# URLs that were read are sound

Each part of a URL is encoded while it is read, so no white space gets into it, and a path without
segments ends where the text does, which has no space at its end. A reference keeps what it takes
from its base, so the same holds of what it is joined to.
-/

namespace PageRules

open Text (Solid isBlank)

theorem forall_mem_none {α : Type} (P : α → Prop) : ∀ a ∈ (none : Option α), P a := by
  rintro a ⟨⟩

theorem forall_mem_some {α : Type} {P : α → Prop} {a : α} (h : P a) : ∀ b ∈ some a, P b := by
  rintro _ ⟨⟩
  exact h

/-- What `x` gives, if it gives anything, has a property. -/
def Ensures {ε α : Type} (P : α → Prop) (x : Except ε α) : Prop := ∀ a, x = .ok a → P a

namespace Ensures

variable {ε α β : Type} {P : α → Prop} {Q : β → Prop} {a : α} {x : Except ε α}

theorem ok (h : P a) : Ensures P (.ok a : Except ε α) := by
  rintro _ ⟨⟩
  exact h

theorem error (e : ε) : Ensures P (.error e) := by
  rintro _ ⟨⟩

/-- Readers in a row: the second may rely on what the first ensures. -/
theorem bind {f : α → Except ε β} (hx : Ensures P x) (hf : ∀ a, P a → Ensures Q (f a)) :
    Ensures Q (x >>= f) := by
  intro b hb
  cases x with
  | error e => cases hb
  | ok a => exact hf a (hx a rfl) b hb

theorem map {f : α → β} (hx : Ensures P x) (hf : ∀ a, P a → Q (f a)) : Ensures Q (x.map f) := by
  intro b hb
  cases x with
  | error e => cases hb
  | ok a =>
    cases hb
    exact hf a (hx a rfl)

end Ensures

namespace Url

/-! ## Queries and fragments -/

/-- The fragment of a text that is empty or begins with its mark. -/
def fragment? : Text → Option Text
  | _ :: rest => some (percentEncode encodesFragment rest)
  | [] => none

/-- A fragment is encoded with a set that takes in all white space. -/
theorem solid_fragment? (t : Text) : ∀ f ∈ fragment? t, Solid f := by
  cases t with
  | nil => exact forall_mem_none Solid
  | cons c t => exact forall_mem_some (encodesBlank_fragment.solid t)

/-- A text with a question mark has a query, which ends before the mark of the fragment. -/
theorem readTail_cases (kind : SchemeKind) (t : Text) :
    (∃ encodes query rest, EncodesBlank encodes ∧
      readTail kind t = (some (percentEncode encodes query), fragment? rest)) ∨
    readTail kind t = (none, fragment? t) := by
  unfold readTail
  extract_lets encodes fragment
  have hencodes : EncodesBlank encodes := by
    simp only [encodes]
    split
    · exact encodesBlank_specialQuery
    · exact encodesBlank_query
  split
  · exact .inl ⟨encodes, _, _, hencodes, rfl⟩
  · exact .inr rfl

/-- Query and fragment are encoded, so they have no white space. -/
theorem solid_readTail (kind : SchemeKind) (t : Text) :
    (∀ q ∈ (readTail kind t).1, Solid q) ∧ ∀ f ∈ (readTail kind t).2, Solid f := by
  obtain ⟨encodes, query, rest, he, h⟩ | h := readTail_cases kind t
  · rw [h]
    exact ⟨forall_mem_some (he.solid query), solid_fragment? rest⟩
  · rw [h]
    exact ⟨forall_mem_none Solid, solid_fragment? t⟩

/-- Only an empty text has neither a query nor a fragment. -/
theorem eq_nil_of_readTail {kind : SchemeKind} {t : Text} (hq : (readTail kind t).1 = none)
    (hf : (readTail kind t).2 = none) : t = [] := by
  obtain ⟨encodes, query, rest, he, h⟩ | h := readTail_cases kind t
  · simp [h] at hq
  · rw [h] at hf
    cases t with
    | nil => rfl
    | cons c t => cases hf

/-! ## Paths -/

section

variable {kind : SchemeKind} {path t : Text}

theorem dropSegment_subset : dropSegment kind path ⊆ path := by
  unfold dropSegment
  split
  · exact List.Subset.refl path
  · exact List.take_subset _ path

theorem parentPath_subset : parentPath kind path ⊆ path := by
  unfold parentPath
  dsimp only
  split
  · exact List.Subset.trans dropSegment_subset (List.dropLast_subset path)
  · exact dropSegment_subset

end

/-- The property is one of slashes and of all that is written for a segment. -/
structure HoldsInPaths (P : Char → Prop) : Prop where
  slash : P '/'
  encoded : ∀ written, ∀ c ∈ percentEncode encodesPath written, P c

namespace HoldsInPaths

variable {P : Char → Prop} (hP : HoldsInPaths P) {kind : SchemeKind} {path : Text}
include hP

theorem forall_mem_slash : ∀ c ∈ ['/'], P c := List.forall_mem_singleton.mpr hP.slash

theorem addSegment (h : ∀ c ∈ path, P c) (last : Bool) (written : Text) :
    ∀ c ∈ addSegment kind last path written, P c := by
  have hslashed {p : Text} (hp : ∀ c ∈ p, P c) : ∀ c ∈ p ++ ['/'], P c :=
    List.forall_mem_append.mpr ⟨hp, hP.forall_mem_slash⟩
  unfold Url.addSegment
  extract_lets segment above parent
  have habove : ∀ c ∈ above, P c := by
    simp only [above]
    split
    · exact hslashed h
    · exact h
  have hparent : ∀ c ∈ parent, P c := fun c hc => habove c (parentPath_subset hc)
  split
  · split
    · exact hparent
    · exact hslashed hparent
  split
  · split
    · exact habove
    · exact hslashed habove
  · have hadded : ∀ c ∈ above ++ segment, P c :=
      List.forall_mem_append.mpr ⟨habove, hP.encoded written⟩
    split
    · rwa [List.append_nil]
    · exact hslashed hadded

/-- Segments are added one by one, dots among them taking segments away again. -/
theorem addSegments (h : ∀ c ∈ path, P c) (written : List Text) :
    ∀ c ∈ addSegments kind path written, P c := by
  fun_induction Url.addSegments kind path written with
  | case1 path => exact h
  | case2 path written => exact hP.addSegment h true written
  | case3 path written rest _ ih => exact ih (hP.addSegment h false written)

/-- What holds of the characters of the base path, of slashes and of encoded characters holds of the
path that is read. -/
theorem readPath (h : ∀ c ∈ path, P c) (t : Text) : ∀ c ∈ (readPath kind path t).1, P c := by
  unfold Url.readPath
  extract_lets separates written spelled added
  have hadded : ∀ c ∈ added, P c := hP.addSegments h _
  dsimp only
  split
  · exact List.forall_mem_cons.mpr ⟨hP.slash, fun c hc => hadded c (List.dropWhile_subset _ hc)⟩
  · exact hadded

theorem readPathStart (kind : SchemeKind) (t : Text) : ∀ c ∈ (readPathStart kind t).1, P c := by
  have hread (t : Text) : ∀ c ∈ (Url.readPath kind ['/'] t).1, P c :=
    hP.readPath hP.forall_mem_slash t
  unfold Url.readPathStart
  split
  · split
    · exact hP.forall_mem_slash
    · exact List.forall_mem_nil P
  split
  · exact hread _
  split
  · exact List.forall_mem_nil P
  · exact hread _

end HoldsInPaths

/-- White space is always encoded in a path. -/
theorem holdsInPaths_not_isBlank : HoldsInPaths fun c => isBlank c = false where
  slash := rfl
  encoded := encodesBlank_path.solid

theorem solid_slash : Solid ['/'] := .cons rfl .nil

theorem solid_dropSegment {kind : SchemeKind} {path : Text} (h : Solid path) :
    Solid (dropSegment kind path) :=
  h.of_subset dropSegment_subset

/-- So a path that is read has none where the path of its base has none. -/
theorem solid_readPath {kind : SchemeKind} {path : Text} (h : Solid path) (t : Text) :
    Solid (readPath kind path t).1 :=
  holdsInPaths_not_isBlank.readPath h t

theorem solid_readPathStart (kind : SchemeKind) (t : Text) : Solid (readPathStart kind t).1 :=
  holdsInPaths_not_isBlank.readPathStart kind t

theorem solid_ofText {path : Text} (h : Solid path) :
    ∀ s ∈ (UrlPath.ofText path).segmentList, Solid s :=
  fun s hs => h.splitOn s (List.mem_of_mem_drop hs)

/-! ## Parts put together -/

/-- A scheme that was read. -/
def SoundScheme (scheme : Text) : Prop := scheme ≠ [] ∧ Solid scheme

theorem Sound.soundScheme {u : Url} (h : u.Sound) : SoundScheme u.scheme :=
  ⟨h.scheme_ne_nil, h.scheme⟩

section

variable {scheme : Text} {authority : Option Authority} {path : UrlPath}

/-- A URL of segments is sound when its parts are, whatever its query and fragment are read from. -/
theorem sound_withTail (hs : SoundScheme scheme) (ha : ∀ a ∈ authority, a.Sound)
    (ho : path.isOpaque = false) (hp : ∀ s ∈ path.segmentList, Solid s) (t : Text) :
    (withTail scheme authority path t).Sound where
  scheme_ne_nil := hs.1
  scheme := hs.2
  authority := ha
  segments := hp
  opaqueScheme h := absurd h (by simp [withTail, ho])
  opaqueEnd h := absurd h (by simp [withTail, ho])
  query := (solid_readTail (.of scheme) t).1
  fragment := (solid_readTail (.of scheme) t).2

theorem sound_withTail_ofText (hs : SoundScheme scheme) (ha : ∀ a ∈ authority, a.Sound)
    {path : Text} (hp : Solid path) (t : Text) :
    (withTail scheme authority (.ofText path) t).Sound :=
  sound_withTail hs ha rfl (solid_ofText hp) t

/-- A path without structure that ends in no space, or with a query or a fragment behind it. -/
theorem sound_withTail_opaqueText (hs : SoundScheme scheme) (hk : SchemeKind.of scheme = .other)
    {path t : Text} (hp : t = [] → ∀ c ∈ path.getLast?, isBlank c = false) :
    (withTail scheme none (.opaqueText path) t).Sound where
  scheme_ne_nil := hs.1
  scheme := hs.2
  authority := forall_mem_none Authority.Sound
  segments := List.forall_mem_nil Solid
  opaqueScheme _ := hk
  opaqueEnd _ hq hf := hp (eq_nil_of_readTail hq hf)
  query := (solid_readTail (.of scheme) t).1
  fragment := (solid_readTail (.of scheme) t).2

end

section

variable {base : Url} (h : base.Sound)
include h

/-- A reference that leaves all but the fragment of its base keeps what is sound. -/
theorem Sound.dropFragment (ho : base.path.isOpaque = false) :
    { base with fragment := none }.Sound :=
  { h with
    opaqueEnd := fun hp => absurd hp (by simp [ho])
    fragment := forall_mem_none Solid }

theorem Sound.withFragment {t : Text} (ht : t.head? = some '#') : (withFragment base t).Sound := by
  obtain ⟨t, rfl⟩ := List.head?_eq_some_iff.mp ht
  exact { h with
    opaqueEnd := by rintro - - ⟨⟩
    fragment := (solid_readTail .other _).2 }

end

/-! ## Authorities -/

/-- An authority with a host and without a user. -/
theorem sound_ofHost {host : Option Host} (h : ∀ h ∈ host, h.Sound) {portNumber : Option Nat} :
    Authority.Sound { host, portNumber } :=
  ⟨.nil, .nil, h⟩

section

variable {scheme t : Text}

/-- User name and password are encoded, so they have no white space. -/
theorem solid_readCredentials (t : Text) :
    Solid (readCredentials t).1 ∧ Solid (readCredentials t).2 := by
  unfold readCredentials
  split
  · exact ⟨encodesBlank_userinfo.solid _, encodesBlank_userinfo.solid _⟩
  · exact ⟨encodesBlank_userinfo.solid t, .nil⟩

/-- A host is checked while it is read, and a port is a number. -/
theorem sound_readHostPort (scheme t : Text) :
    Ensures (fun read => read.1.Sound) (readHostPort scheme t) := by
  unfold readHostPort
  split
  rename_i hostText portText _
  split
  · split
    · exact .error _
    · exact .ok (sound_ofHost (forall_mem_none Host.Sound))
  extract_lets withHost
  have hwith (host : Host) (hhost : host.Sound) :
      Ensures (fun read => read.1.Sound) (withHost host) := by
    refine .bind (P := fun _ => True) (fun _ _ => trivial) fun port _ => ?_
    exact .ok (sound_ofHost (forall_mem_some hhost))
  split
  · exact .bind (fun host => Host.sound_of_read) hwith
  · exact .bind (fun host => Host.sound_of_readOpaque) hwith

theorem sound_readCredentialed (scheme : Text) (ends : Bool) (t : Text) :
    Ensures (fun read => read.1.Sound) (readCredentialed scheme ends t) := by
  unfold readCredentialed
  split
  · exact sound_readHostPort scheme t
  rename_i credentials hostPort _
  have hwritten := solid_readCredentials credentials
  generalize readCredentials credentials = written at hwritten
  split
  · exact .error _
  refine .bind (sound_readHostPort scheme hostPort) fun read hread => ?_
  dsimp only
  split
  · exact .error _
  · exact .ok ⟨hwritten.1, hwritten.2, hread.host⟩

/-- The authority and the path behind it are read one after the other. -/
theorem sound_readAuthority (hs : SoundScheme scheme) (t : Text) :
    Ensures Sound (readAuthority scheme t) := by
  refine .bind (sound_readCredentialed scheme _ _) fun read hread => ?_
  exact .ok (sound_withTail_ofText hs (forall_mem_some hread) (solid_readPathStart _ _) _)

end

/-! ## Files -/

theorem soundScheme_fileScheme : SoundScheme fileScheme := by
  constructor <;> simp [fileScheme, Solid, isBlank]

theorem fileUrl_eq (host : Option Host) (base t : Text) :
    fileUrl host base t = withTail fileScheme (some { host })
      (.ofText (readPath .file base t).1) (readPath .file base t).2 := rfl

/-- A file URL has a path of segments, whatever its host. -/
theorem sound_fileUrl {host : Option Host} (hh : ∀ h ∈ host, h.Sound) {base : Text}
    (hb : Solid base) (t : Text) : (fileUrl host base t).Sound := by
  rw [fileUrl_eq]
  exact sound_withTail_ofText soundScheme_fileScheme (forall_mem_some (sound_ofHost hh))
    (solid_readPath hb t) _

/-- A file URL has no host where its path begins with a drive, and a host that it has was read. -/
theorem sound_readFileHost (t : Text) : Ensures Sound (readFileHost t) := by
  have hnone := forall_mem_none Host.Sound
  unfold readFileHost
  extract_lets inside hostText rest onHost
  have hon (host : Option Host) (hhost : ∀ h ∈ host, h.Sound) :
      Ensures Sound (onHost host) := by
    simp only [onHost]
    split
    · exact .ok (sound_fileUrl hnone .nil rest)
    split
    · exact .ok (sound_fileUrl hnone solid_slash _)
    · exact .ok (sound_withTail_ofText soundScheme_fileScheme
        (forall_mem_some (sound_ofHost hhost)) (solid_readPathStart _ _) _)
  split
  · exact .ok (sound_fileUrl hnone solid_slash t)
  split
  · exact hon none hnone
  · have hread : Ensures (fun host : Option Host => ∀ h ∈ host, h.Sound)
        ((Host.read hostText).map some) :=
      .map (fun host => Host.sound_of_read) fun host hhost => forall_mem_some hhost
    exact .bind hread hon

theorem Sound.host {u : Url} (h : u.Sound) :
    ∀ host ∈ u.authority.bind (·.host), host.Sound := by
  intro host hh
  obtain ⟨a, ha, hh⟩ := Option.bind_eq_some_iff.mp hh
  exact (h.authority a ha).host host hh

/-- A base whose path has segments. -/
structure Hierarchical (base : Url) : Prop where
  sound : base.Sound
  not_opaque : base.path.isOpaque = false

section

variable {base : Option Url} (hb : ∀ b ∈ base, b.Hierarchical)
include hb

theorem sound_absolute (t rest : Text) : (readFile.absolute base t rest).Sound := by
  have hnone := forall_mem_none Host.Sound
  unfold readFile.absolute
  split
  · rename_i b
    obtain ⟨hsound, -⟩ := hb b rfl
    have hdrive : Solid (b.path.segmentList.headD []) := by
      cases hl : b.path.segmentList with
      | nil => exact .nil
      | cons s l => exact hsound.segments s (by simp [hl])
    dsimp only
    split
    · exact sound_fileUrl hnone .nil t
    split
    · exact sound_fileUrl hnone (.cons rfl hdrive) t
    · exact sound_fileUrl hsound.host .nil t
  · exact sound_fileUrl hnone .nil t

/-- What a file reference takes over from its base was sound there. -/
theorem sound_readFile (t : Text) : Ensures Sound (readFile base t) := by
  have hnone := forall_mem_none Host.Sound
  unfold readFile
  split
  · rename_i c rest
    split
    -- a slash, with a host behind a second one
    · split
      · split
        · exact sound_readFileHost _
        · exact .ok (sound_absolute hb _ _)
      · exact .ok (sound_absolute hb _ _)
    split
    · exact .ok (sound_fileUrl hnone solid_slash _)
    -- a fragment, a query or a path that replaces the one of the base
    · rename_i b
      obtain ⟨hsound, ho⟩ := hb b rfl
      split
      · rename_i hc
        exact .ok (hsound.withFragment (by simpa using hc))
      split
      · exact .ok (sound_withTail soundScheme_fileScheme hsound.authority ho hsound.segments _)
      split
      · exact .ok (sound_fileUrl hnone solid_slash _)
      · exact .ok (sound_fileUrl hsound.host (solid_dropSegment (hsound.solid_pathText ho)) _)
  split
  · rename_i b
    obtain ⟨hsound, ho⟩ := hb b rfl
    exact .ok (hsound.dropFragment ho)
  · exact .ok (sound_fileUrl hnone solid_slash _)

end

/-! ## References -/

section

variable {base : Url} (h : base.Hierarchical)
include h

theorem sound_onBase {above : Text} (ha : Solid above) (kind : SchemeKind) (t : Text) :
    (readRelative.onBase base kind above t).Sound :=
  sound_withTail_ofText h.sound.soundScheme h.sound.authority (solid_readPath ha t) _

/-- A reference without a scheme keeps a sound front of its base and reads the rest. -/
theorem sound_readRelative (t : Text) : Ensures Sound (readRelative base t) := by
  have hsound := h.sound
  have ho := h.not_opaque
  unfold readRelative
  extract_lets kind
  split
  · exact .ok (hsound.dropFragment ho)
  split
  · rename_i hc
    exact .ok (hsound.withFragment (by simpa using hc))
  split
  · exact .ok (sound_withTail hsound.soundScheme hsound.authority ho hsound.segments _)
  split
  -- slashes at the front leave only the scheme of the base, or its authority
  · split
    · split
      · exact sound_readAuthority hsound.soundScheme _
      · exact .ok (sound_onBase h solid_slash kind _)
    · exact .ok (sound_onBase h solid_slash kind _)
  · refine .ok (sound_onBase h ?_ kind _)
    split
    · exact solid_slash
    · exact solid_dropSegment (hsound.solid_pathText ho)

end

/-! ## The whole text -/

/-- No text that was cleaned ends in a space or a control. -/
theorem getLast?_cleanInput (t : Text) : ∀ c ∈ (cleanInput t).getLast?, 0x20 < c.toNat := by
  intro c hc
  unfold cleanInput at hc
  extract_lets isEdge at hc
  obtain hnil | ⟨s, d, hd⟩ := List.eq_nil_or_concat (Text.dropEndWhile isEdge (t.dropWhile isEdge))
  · simp [hnil] at hc
  · have hedge : isEdge d = false := by
      have hlast := List.rdropWhile_last_not isEdge (t.dropWhile isEdge)
        (by rw [← Text.dropEndWhile_eq_rdropWhile, hd]; simp)
      simpa [← Text.dropEndWhile_eq_rdropWhile, hd] using hlast
    have hcode : 0x20 < d.toNat := by simpa [isEdge] using hedge
    have hkept : (!(d == '\t' || d == '\n' || d == '\r')) = true := by
      simp only [Bool.not_eq_true', Bool.or_eq_false_iff, beq_eq_false_iff_ne]
      refine ⟨⟨?_, ?_⟩, ?_⟩ <;> (rintro rfl; exact absurd hcode (by decide))
    rw [hd, List.concat_eq_append, List.filter_append, List.filter_singleton, hkept, cond_true,
      List.getLast?_concat] at hc
    cases hc
    exact hcode

theorem toNat_lt_of_isSchemeChar {c : Char} (hc : isSchemeChar c = true) : c.toNat < 0x80 := by
  simp only [isSchemeChar, Char.isAlphanum, Char.isAlpha, Char.isUpper, Char.isLower,
    Char.isDigit, Bool.or_eq_true, Bool.and_eq_true, decide_eq_true_eq, beq_iff_eq] at hc
  obtain ((((⟨-, hle⟩ | ⟨-, hle⟩) | ⟨-, hle⟩) | rfl) | rfl) | rfl := hc
  any_goals decide
  all_goals exact Nat.lt_of_le_of_lt (UInt32.le_iff_toNat_le.mp hle) (by decide)

theorem isBlank_of_isSchemeChar {c : Char} (hc : isSchemeChar c = true) :
    isBlank c = false ∧ isBlank c.toLower = false := by
  have hcodes : ∀ n < 0x80, isSchemeChar (Char.ofNat n) = true →
      isBlank (Char.ofNat n) = false ∧ isBlank (Char.ofNat n).toLower = false := by decide
  simpa using hcodes c.toNat (toNat_lt_of_isSchemeChar hc) (by simpa using hc)

/-- A scheme is letters, digits and three signs. -/
theorem soundScheme_of_scheme? {t scheme rest : Text} (h : scheme? t = some (scheme, rest)) :
    SoundScheme scheme ∧ ':' :: rest <:+ t := by
  unfold scheme? at h
  split at h
  · rename_i c t
    split at h
    · rename_i hc
      split at h
      · rename_i rest' hrest
        cases h
        have hfirst : isSchemeChar c = true := by
          simp [isSchemeChar, Char.isAlphanum, hc]
        refine ⟨⟨?_, fun d hd => ?_⟩, hrest ▸ List.dropWhile_suffix _⟩
        · simp [Text.lower, List.takeWhile_cons_of_pos hfirst]
        · obtain ⟨e, he, rfl⟩ := List.mem_map.mp hd
          exact (isBlank_of_isSchemeChar (List.mem_takeWhile_imp he)).2
      · cases h
    · cases h
  · cases h

/-- Encoding puts no white space at the end of a text: a space that ends it was cleaned away, and
all other white space is encoded. -/
theorem getLast?_percentEncode_isControl {t : Text} (h : ∀ c ∈ t.getLast?, 0x20 < c.toNat) :
    ∀ c ∈ (percentEncode isControl t).getLast?, isBlank c = false := by
  refine Text.getLast?_flatMap (encodeChar_ne_nil isControl) fun c hc => ?_
  refine solid_encodeChar fun hb => isControl_of_isBlank hb ?_
  rintro rfl
  exact absurd (h ' ' hc) (by decide)

/-- Behind a scheme, the kind of the scheme decides how the rest is read. -/
theorem sound_readWithScheme {base : Option Url} (hb : ∀ b ∈ base, b.Sound) {scheme t : Text}
    (hs : SoundScheme scheme) (ht : ∀ c ∈ t.getLast?, 0x20 < c.toNat) :
    Ensures Sound (readWithScheme base scheme t) := by
  unfold readWithScheme
  extract_lets sameScheme encoded
  have hsame (hk : SchemeKind.of scheme ≠ .other) : ∀ b ∈ sameScheme, b.Hierarchical := by
    intro b hmem
    obtain ⟨hbase, hscheme⟩ := Option.filter_eq_some_iff.mp hmem
    have hsound := hb b hbase
    refine ⟨hsound, hsound.isOpaque_eq_false ?_⟩
    rwa [of_decide_eq_true hscheme]
  clear_value sameScheme
  split
  · rename_i hk
    exact sound_readFile (hsame (by simp [hk])) t
  · rename_i hk
    split
    · rename_i b
      split
      · exact sound_readRelative (hsame (by simp [hk]) b rfl) t
      · exact sound_readAuthority hs _
    · exact sound_readAuthority hs _
  · rename_i hk
    split
    · exact sound_readAuthority hs _
    · rename_i rest _
      have hpath : Solid (readPath .other ['/'] rest).1 := solid_readPath solid_slash rest
      exact .ok (sound_withTail_ofText hs (forall_mem_none Authority.Sound) hpath _)
    · refine .ok (sound_withTail_opaqueText hs hk fun hrest => ?_)
      have hencoded : encoded = percentEncode isControl t :=
        congrArg (percentEncode isControl)
          (List.takeWhile_eq_self_iff.mpr (List.dropWhile_eq_nil_iff.mp hrest))
      rw [hencoded]
      exact getLast?_percentEncode_isControl ht

/-- Whatever is read with or without a base is sound. -/
theorem sound_readWith {base : Option Url} (hb : ∀ b ∈ base, b.Sound) (t : Text) :
    Ensures Sound (readWith base t) := by
  unfold readWith
  extract_lets cleaned
  split
  · rename_i scheme rest hscheme
    obtain ⟨hs, hsuffix⟩ := soundScheme_of_scheme? hscheme
    obtain ⟨front, hfront⟩ := hsuffix
    refine sound_readWithScheme hb hs fun c hc => getLast?_cleanInput t c ?_
    rw [← show front ++ ':' :: rest = cleanInput t from hfront, List.getLast?_append,
      List.getLast?_cons, Option.mem_def.mp hc]
    rfl
  split
  · exact .error _
  · rename_i b
    have hsound := hb b rfl
    split
    · rename_i hhead
      exact .ok (hsound.withFragment hhead)
    split
    · exact .error _
    · rename_i ho
      have hh : b.Hierarchical := ⟨hsound, by simpa using ho⟩
      split
      · exact sound_readFile (forall_mem_some hh) _
      · exact sound_readRelative hh _

/-- A URL that was read is sound. -/
theorem sound_of_read {t : Text} {u : Url} (h : read t = .ok u) : u.Sound :=
  sound_readWith (forall_mem_none Sound) t u h

/-- So is what a reference is joined to. -/
theorem Sound.join {base u : Url} {t : Text} (hb : base.Sound) (h : base.join t = .ok u) :
    u.Sound :=
  sound_readWith (forall_mem_some hb) t u h

end Url
end PageRules
