import Mathlib
import PageRules.Proofs.Url.Path
import PageRules.Site

/-!
# Request paths

The patterns of path scopes describe paths: texts that begin with a slash, without the marks of a
query and a fragment and without white space at their ends (`IsPath`). An address that is no URL
asks for a path, and so does a URL whose own path has segments; a path asks for itself. A URL
without a path asks for the empty text, and one whose path has no structure for that text, and
neither of the two is a path (`requestPath_isPath`).
-/

namespace PageRules

open Text (Trimmed)

/-- The text begins with a slash, has no mark of a query or a fragment in it, and neither begins nor
ends with white space. -/
structure IsPath (t : Text) : Prop where
  slash : t.head? = some '/'
  markFree : Url.MarkFree t
  trimmed : Trimmed t

/-! ## Addresses that are no URLs -/

theorem takeWhile_requestPath_eq (t : Text) :
    t.takeWhile (fun c => c != '?' && c != '#') = t.takeWhile (!Url.endsPath ·) := by
  congr 1
  funext c
  simp [Url.endsPath, bne]

theorem isPath_of_error {address : Text} {e : UrlError} (h : Url.read address = .error e) :
    IsPath (requestPath address) := by
  have hfree : Url.MarkFree (Text.trim (address.takeWhile (!Url.endsPath ·))) := by
    intro c hc
    simpa using List.mem_takeWhile_imp ((Text.trim_isInfix _).subset hc)
  have htrim : Trimmed (Text.trim (address.takeWhile (!Url.endsPath ·))) := Text.trimmed_trim _
  unfold requestPath
  simp only [h, takeWhile_requestPath_eq]
  generalize Text.trim (address.takeWhile (!Url.endsPath ·)) = path at hfree htrim
  split
  · exact ⟨rfl, Url.markFree_slash, by decide⟩
  · exact ⟨rfl, hfree, htrim⟩
  · exact ⟨rfl, List.forall_mem_cons.mpr ⟨rfl, hfree⟩, Text.trimmed_cons rfl htrim⟩

/-- A path asks for itself. -/
theorem IsPath.requestPath_eq {t : Text} (h : IsPath t) : requestPath t = t := by
  obtain ⟨rest, rfl⟩ := List.head?_eq_some_iff.mp h.slash
  have hall : ('/' :: rest).takeWhile (!Url.endsPath ·) = '/' :: rest :=
    List.takeWhile_eq_self_iff.mpr fun c hc => by simp [h.markFree c hc]
  have htrim : Text.trim ('/' :: rest) = '/' :: rest := h.trimmed
  unfold requestPath
  simp only [Url.read_slash, takeWhile_requestPath_eq, hall, htrim]

/-! ## URLs -/

section

variable {address : Text} {url : Url} (h : Url.read address = .ok url)
include h

theorem requestPath_of_read : requestPath address = url.pathText := by
  unfold requestPath
  rw [h]

theorem trimmed_pathText (ho : url.path.isOpaque = false) : Trimmed url.pathText :=
  ((Url.sound_of_read h).solid_pathText ho).trimmed

/-- The path of a URL with segments is one. -/
theorem isPath_pathText (hs : url.path.segmentList ≠ []) : IsPath url.pathText := by
  have ho : url.path.isOpaque = false := by
    cases hp : url.path with
    | segments l => rfl
    | opaqueText t => exact absurd (by rw [hp]; rfl) hs
  exact ⟨(Url.head?_pathText_iff h).mpr hs, Url.markFree_pathText h, trimmed_pathText h ho⟩

end

/-! ## Any address -/

theorem markFree_requestPath (address : Text) : Url.MarkFree (requestPath address) := by
  cases h : Url.read address with
  | error e => exact (isPath_of_error h).markFree
  | ok url =>
    rw [requestPath_of_read h]
    exact Url.markFree_pathText h

/-- Only a path asks for itself. A URL without segments in its path asks for a text without
controls, and where this reads as such a URL again, its path has lost the scheme. -/
theorem isPath_of_requestPath_eq {address : Text}
    (h : requestPath (requestPath address) = requestPath address) :
    IsPath (requestPath address) := by
  cases hu : Url.read address with
  | error e => exact isPath_of_error hu
  | ok url =>
    rw [requestPath_of_read hu] at h ⊢
    by_cases hs : url.path.segmentList = []
    · cases hv : Url.read url.pathText with
      | error e => exact h ▸ isPath_of_error hv
      | ok again =>
        rw [requestPath_of_read hv] at h
        by_cases hs' : again.path.segmentList = []
        · have hlt := Url.length_pathText_lt hv hs' (Url.not_isControl_pathText hu hs)
          rw [h] at hlt
          exact absurd hlt (Nat.lt_irrefl _)
        · exact h ▸ isPath_pathText hv hs'
    · exact isPath_pathText hu hs

/-- What an address asks for has no mark of a query or a fragment in it, and white space at an end
only if it is the path of a URL without segments. It begins with a slash unless the address is a URL
whose path has no segments, and it asks for itself exactly if it begins with a slash. -/
theorem requestPath_isPath (address : Text) :
    (∀ c ∈ requestPath address, c ≠ '?' ∧ c ≠ '#') ∧
    ((∀ url, Url.read address = .ok url → url.path.isOpaque = false) →
      Trimmed (requestPath address)) ∧
    ((requestPath address).head? = some '/' ↔
      ∀ url, Url.read address = .ok url → url.path.segmentList ≠ []) ∧
    (requestPath (requestPath address) = requestPath address ↔
      (requestPath address).head? = some '/') := by
  have hmarks : ∀ c ∈ requestPath address, c ≠ '?' ∧ c ≠ '#' := fun c hc => by
    simpa [Url.endsPath] using markFree_requestPath address c hc
  cases h : Url.read address with
  | error e =>
    have hp := isPath_of_error h
    refine ⟨hmarks, fun _ => hp.trimmed, iff_of_true hp.slash fun url hu => ?_,
      iff_of_true hp.requestPath_eq hp.slash⟩
    cases hu
  | ok url =>
    have hslash := Url.head?_pathText_iff h
    rw [← requestPath_of_read h] at hslash
    refine ⟨hmarks, fun ho => ?_, ?_, fun hfix => ?_, fun hs => ?_⟩
    · rw [requestPath_of_read h]
      exact trimmed_pathText h (ho url rfl)
    · rw [hslash]
      exact ⟨fun hs _ hu => Except.ok.inj hu ▸ hs, fun hs => hs url rfl⟩
    · exact (isPath_of_requestPath_eq hfix).slash
    · have hpath := isPath_pathText h (hslash.mp hs)
      rw [← requestPath_of_read h] at hpath
      exact hpath.requestPath_eq

/-- A URL without a path, and one whose path has no segments. -/
example : requestPath "app://shop".toList = [] ∧
    requestPath "shop:8080/list".toList = "8080/list".toList := by decide +kernel

end PageRules
