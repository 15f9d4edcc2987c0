import Mathlib
import PageRules.Proofs.Url.Sound

/-!
# Paths of URLs that were read

The path of a URL ends where its query or its fragment begins, and in a segment their marks are
encoded, so neither mark stands in a path. A path is a list of segments, or, where no slash follows
the scheme, the text up to those marks with its controls encoded (`pathFrom_of_read`).
-/

namespace PageRules.Url

/-! ## Encoding -/

/-- Neither the mark of a query nor that of a fragment stands in the text. -/
def MarkFree (t : Text) : Prop := ∀ c ∈ t, endsPath c = false

theorem endsPath_hexDigit {n : Nat} (hn : n < 16) : endsPath (hexDigit n) = false := by
  interval_cases n <;> rfl

theorem percentEncode_eq_self {encodes : Char → Bool} {t : Text}
    (h : ∀ c ∈ t, encodes c = false) : percentEncode encodes t = t := by
  have hkept : ∀ c ∈ t, encodeChar encodes c = [c] :=
    fun c hc => if_neg (Bool.eq_false_iff.mp (h c hc))
  rw [percentEncode, List.flatMap_congr hkept]
  exact List.flatMap_singleton' t

theorem isControl_hexDigit {n : Nat} (hn : n < 16) : isControl (hexDigit n) = false := by
  interval_cases n <;> rfl

/-- Encoding the controls leaves none. -/
theorem not_isControl_percentEncode (t : Text) :
    ∀ c ∈ percentEncode isControl t, isControl c = false :=
  forall_mem_percentEncode (P := fun c => isControl c = false) rfl (fun _ => isControl_hexDigit)
    fun _ _ => id

/-- Percent encoding brings in no mark. -/
theorem markFree_percentEncode {encodes : Char → Bool} {t : Text}
    (h : ∀ c ∈ t, encodes c = false → endsPath c = false) :
    MarkFree (percentEncode encodes t) :=
  forall_mem_percentEncode (P := fun c => endsPath c = false) rfl (fun _ => endsPath_hexDigit) h

theorem encodesPath_of_endsPath {c : Char} (h : endsPath c = true) : encodesPath c = true := by
  rw [endsPath, Bool.or_eq_true, beq_iff_eq, beq_iff_eq] at h
  obtain rfl | rfl := h <;> rfl

theorem holdsInPaths_markFree : HoldsInPaths fun c => endsPath c = false where
  slash := rfl
  encoded written := markFree_percentEncode fun c _ hc => by
    rw [Bool.eq_false_iff] at hc ⊢
    exact fun h => hc (encodesPath_of_endsPath h)

/-! ## Segments -/

/-- The path of the URL is a list of segments without marks. -/
def Segmented (u : Url) : Prop := ∃ path, u.path = .ofText path ∧ MarkFree path

section

variable {scheme : Text} {authority : Option Authority} {path t : Text}

theorem segmented_withTail (h : MarkFree path) :
    (withTail scheme authority (.ofText path) t).Segmented := ⟨path, rfl, h⟩

theorem segmented_readAuthority (scheme t : Text) : Ensures Segmented (readAuthority scheme t) := by
  refine .bind (P := fun _ => True) (fun _ _ => trivial) fun read _ => ?_
  exact .ok (segmented_withTail (holdsInPaths_markFree.readPathStart _ _))

theorem segmented_fileUrl {host : Option Host} (h : MarkFree path) (t : Text) :
    (fileUrl host path t).Segmented := by
  rw [fileUrl_eq]
  exact segmented_withTail (holdsInPaths_markFree.readPath h t)

theorem markFree_nil : MarkFree [] := List.forall_mem_nil _

theorem markFree_slash : MarkFree ['/'] := holdsInPaths_markFree.forall_mem_slash

theorem segmented_readFileHost (t : Text) : Ensures Segmented (readFileHost t) := by
  unfold readFileHost
  extract_lets inside hostText rest onHost
  have hon (host : Option Host) : Ensures Segmented (onHost host) := by
    simp only [onHost]
    split
    · exact .ok (segmented_fileUrl markFree_nil rest)
    split
    · exact .ok (segmented_fileUrl markFree_slash _)
    · exact .ok (segmented_withTail (holdsInPaths_markFree.readPathStart _ _))
  split
  · exact .ok (segmented_fileUrl markFree_slash t)
  split
  · exact hon none
  · exact .bind (P := fun _ => True) (fun _ _ => trivial) fun host _ => hon host

/-- Without a base, what stands behind the scheme of a file is its path, after its host if it has
one. -/
theorem segmented_readFile (t : Text) : Ensures Segmented (readFile none t) := by
  have habsolute (t rest : Text) : (readFile.absolute none t rest).Segmented :=
    segmented_fileUrl markFree_nil t
  unfold readFile
  split
  · split
    · split
      · split
        · exact segmented_readFileHost _
        · exact .ok (habsolute _ _)
      · exact .ok (habsolute _ _)
    · exact .ok (segmented_fileUrl markFree_slash _)
  · exact .ok (segmented_fileUrl markFree_slash _)

end

/-! ## Whole texts -/

/-- The path that a URL has by what follows its scheme. -/
inductive PathFrom (t : Text) : UrlPath → Prop where
  | segments {path : Text} (h : MarkFree path) : PathFrom t (.ofText path)
  | opaqueText (h : t.head? ≠ some '/') :
    PathFrom t (.opaqueText (percentEncode isControl (t.takeWhile (!endsPath ·))))

theorem Segmented.pathFrom {u : Url} (h : u.Segmented) (t : Text) : PathFrom t u.path := by
  obtain ⟨path, hpath, hfree⟩ := h
  rw [hpath]
  exact .segments hfree

theorem pathFrom_readWithScheme (scheme t : Text) :
    Ensures (fun u => PathFrom t u.path) (readWithScheme none scheme t) := by
  have hsegments {x : Except UrlError Url} (h : Ensures Segmented x) :
      Ensures (fun u => PathFrom t u.path) x := fun u hu => (h u hu).pathFrom t
  unfold readWithScheme
  extract_lets sameScheme encoded
  split
  · exact hsegments (segmented_readFile t)
  · exact hsegments (segmented_readAuthority scheme _)
  · split
    · exact hsegments (segmented_readAuthority scheme _)
    · rename_i rest _
      have hpath : MarkFree (readPath .other ['/'] rest).1 :=
        holdsInPaths_markFree.readPath markFree_slash rest
      exact hsegments (.ok (segmented_withTail hpath))
    · rename_i hslash
      refine .ok (.opaqueText fun hhead => ?_)
      obtain ⟨rest, rfl⟩ := List.head?_eq_some_iff.mp hhead
      exact hslash rest rfl

/-- What is read has a scheme, and the path is that of the text behind the scheme. -/
theorem pathFrom_of_read {t : Text} {u : Url} (h : read t = .ok u) :
    ∃ scheme rest, scheme? (cleanInput t) = some (scheme, rest) ∧ PathFrom rest u.path := by
  unfold read readWith at h
  dsimp only at h
  split at h
  · rename_i scheme rest hscheme
    exact ⟨scheme, rest, hscheme, pathFrom_readWithScheme scheme rest u h⟩
  · cases h

namespace PathFrom

variable {t : Text} {path : UrlPath} (h : PathFrom t path)
include h

theorem markFree_render : MarkFree path.render := by
  cases h with
  | segments hfree =>
    intro c hc
    obtain ⟨s, hs, hcs⟩ := List.mem_flatMap.mp hc
    obtain rfl | hcs := List.mem_cons.mp hcs
    · rfl
    · exact hfree c (Text.forall_mem_splitOn _ _ s (List.mem_of_mem_drop hs) c hcs).2
  | opaqueText =>
    refine markFree_percentEncode fun c hc _ => ?_
    simpa using List.mem_takeWhile_imp hc

/-- A path is written with a slash at its front exactly if it has segments. -/
theorem head?_render_iff : path.render.head? = some '/' ↔ path.segmentList ≠ [] := by
  cases h with
  | @segments written _ =>
    have hlist (l : List Text) : (UrlPath.segments l).render.head? = some '/' ↔ l ≠ [] := by
      cases l <;> simp [UrlPath.render]
    exact hlist _
  | opaqueText hslash =>
    refine iff_of_false (fun hhead => ?_) (fun hne => hne rfl)
    -- the text in front of the marks has a first character, which is that of the whole text
    obtain ⟨c, s, hc⟩ := List.exists_cons_of_ne_nil (l := t.takeWhile (!endsPath ·)) <| by
      intro hnil
      rw [UrlPath.render, hnil] at hhead
      cases hhead
    have hfirst : (t.head?.filter (!endsPath ·)) = some c := by rw [← List.head?_takeWhile, hc]; rfl
    have hne : c ≠ '/' := by
      rintro rfl
      exact hslash (Option.filter_eq_some_iff.mp hfirst).1
    rw [UrlPath.render, hc, percentEncode, List.flatMap_cons,
      List.head?_append_of_ne_nil _ (encodeChar_ne_nil isControl c)] at hhead
    exact forall_mem_encodeChar (P := (· ≠ '/')) (by decide)
      (fun _ hn => (compact_hexDigit hn).2) (fun _ => hne) _ (List.mem_of_head? hhead) rfl

/-- Without segments, a path has no controls in it. -/
theorem not_isControl_render (hs : path.segmentList = []) :
    ∀ c ∈ path.render, isControl c = false := by
  cases h with
  | @segments written _ =>
    rw [show UrlPath.ofText written = .segments [] from congrArg UrlPath.segments hs]
    exact List.forall_mem_nil _
  | opaqueText => exact not_isControl_percentEncode _

/-- Without segments, the path of a text without controls is no longer than the text. -/
theorem length_render_le (hs : path.segmentList = []) (ht : ∀ c ∈ t, isControl c = false) :
    path.render.length ≤ t.length := by
  cases h with
  | @segments written _ =>
    rw [show UrlPath.ofText written = .segments [] from congrArg UrlPath.segments hs]
    exact Nat.zero_le _
  | opaqueText =>
    have hkept : ∀ c ∈ t.takeWhile (!endsPath ·), isControl c = false :=
      fun c hc => ht c (List.takeWhile_subset _ hc)
    rw [UrlPath.render, percentEncode_eq_self hkept]
    exact (List.takeWhile_prefix _).length_le

end PathFrom

/-! ## Texts that are read -/

/-- Without a scheme nothing is read, and no scheme begins with a slash. -/
theorem read_slash (rest : Text) : read ('/' :: rest) = .error .relativeWithoutBase := by
  have hclean : ∃ s, cleanInput ('/' :: rest) = '/' :: s := by
    unfold cleanInput
    extract_lets isEdge
    have hend : Text.dropEndWhile isEdge ('/' :: rest) = '/' :: Text.dropEndWhile isEdge rest :=
      Text.dropEndWhile_append_cons rfl [] rest
    rw [List.dropWhile_cons_of_neg (by decide), hend]
    exact ⟨_, List.filter_cons_of_pos rfl⟩
  obtain ⟨s, hs⟩ := hclean
  unfold read readWith
  rw [hs]
  rfl

/-- What follows the scheme is shorter than the whole, and has no characters but those of it. -/
theorem behind_scheme {t scheme rest : Text}
    (h : scheme? (cleanInput t) = some (scheme, rest)) : rest.length < t.length ∧ rest ⊆ t := by
  obtain ⟨-, hsuffix⟩ := soundScheme_of_scheme? h
  have hclean : (cleanInput t).Sublist t :=
    (List.filter_sublist.trans (List.rdropWhile_prefix _ _).sublist).trans
      (List.dropWhile_sublist _)
  have hlength := (hsuffix.sublist.trans hclean).length_le
  have hsubset := (hsuffix.sublist.trans hclean).subset
  exact ⟨hlength, fun c hc => hsubset (List.mem_cons_of_mem _ hc)⟩

section

variable {t : Text} {u : Url} (h : read t = .ok u)
include h

theorem markFree_pathText : MarkFree u.pathText := by
  obtain ⟨scheme, rest, -, hpath⟩ := pathFrom_of_read h
  exact hpath.markFree_render

theorem head?_pathText_iff : u.pathText.head? = some '/' ↔ u.path.segmentList ≠ [] := by
  obtain ⟨scheme, rest, -, hpath⟩ := pathFrom_of_read h
  exact hpath.head?_render_iff

theorem not_isControl_pathText (hs : u.path.segmentList = []) :
    ∀ c ∈ u.pathText, isControl c = false := by
  obtain ⟨scheme, rest, -, hpath⟩ := pathFrom_of_read h
  exact hpath.not_isControl_render hs

/-- A URL whose path has no segments is longer than that path, where nothing had to be encoded. -/
theorem length_pathText_lt (hs : u.path.segmentList = []) (ht : ∀ c ∈ t, isControl c = false) :
    u.pathText.length < t.length := by
  obtain ⟨scheme, rest, hscheme, hpath⟩ := pathFrom_of_read h
  obtain ⟨hlength, hsubset⟩ := behind_scheme hscheme
  exact Nat.lt_of_le_of_lt (hpath.length_render_le hs fun c hc => ht c (hsubset hc)) hlength

end

end PageRules.Url
