import Mathlib
import PageRules.Proofs.Url.Host
import PageRules.Url.Read

/-!
# URLs are written without white space at their ends

Every part of a URL that was read is written without white space, but for a path without segments,
which may have spaces in it. `Url.Sound` says so of each part, and that such a path ends in none
where the URL ends with it. So the URL as a whole is written without white space at its ends.
-/

namespace PageRules

open Text (Solid isBlank Trimmed)

/-! ## What a URL that was read is made of -/

/-- Every text of the authority is without white space. -/
structure Authority.Sound (a : Authority) : Prop where
  username : Solid a.username
  password : Solid a.password
  host : ∀ h ∈ a.host, h.Sound

namespace Url

/-- The parts of a URL that keep white space off its ends. Only a path without structure may have
spaces in it: its scheme is no special one, and it ends in no space where nothing follows it. -/
structure Sound (u : Url) : Prop where
  scheme_ne_nil : u.scheme ≠ []
  scheme : Solid u.scheme
  authority : ∀ a ∈ u.authority, a.Sound
  segments : ∀ s ∈ u.path.segmentList, Solid s
  opaqueScheme : u.path.isOpaque = true → SchemeKind.of u.scheme = .other
  opaqueEnd : u.path.isOpaque = true → u.query = none → u.fragment = none →
    ∀ c ∈ u.pathText.getLast?, isBlank c = false
  query : ∀ q ∈ u.query, Solid q
  fragment : ∀ f ∈ u.fragment, Solid f

end Url

/-! ## Writing -/

/-- An authority is written without white space: the marks between its parts are none. -/
theorem Authority.Sound.solid_render {a : Authority} (h : a.Sound) : Solid a.render := by
  have huser : Solid a.renderUserinfo := by
    unfold Authority.renderUserinfo
    split
    · exact .nil
    · refine (h.username.append ?_).append (.cons rfl .nil)
      split
      · exact .nil
      · exact .cons rfl h.password
  have hhost : Solid ((a.host.map Host.render).getD []) := by
    cases hh : a.host with
    | none => exact .nil
    | some host => exact (h.host host hh).solid
  refine (huser.append hhost).append ?_
  split
  · exact .cons rfl (Text.solid_toDigits 10 _)
  · exact .nil

namespace UrlPath

/-- A path of segments is the segments with slashes between them. -/
theorem solid_render {p : UrlPath} (ho : p.isOpaque = false) (h : ∀ s ∈ p.segmentList, Solid s) :
    Solid p.render := by
  cases p with
  | segments l => exact .flatMap fun s hs => .cons rfl (h s hs)
  | opaqueText t => cases ho

end UrlPath

namespace Url

/-- The part of the head before the path. -/
def renderFront (u : Url) : Text :=
  u.scheme ++ ':' ::
    (match u.authority with
      | some a => ['/', '/'] ++ a.render
      | none => if ['/', '/'].isPrefixOf u.pathText then ['/', '.'] else [])

theorem renderHead_eq (u : Url) : u.renderHead = u.renderFront ++ u.pathText := rfl

namespace Sound

variable {u : Url}

theorem isOpaque_eq_false (h : u.Sound) (hk : SchemeKind.of u.scheme ≠ .other) :
    u.path.isOpaque = false :=
  Bool.eq_false_iff.mpr fun ho => hk (h.opaqueScheme ho)

theorem solid_pathText (h : u.Sound) (ho : u.path.isOpaque = false) : Solid u.pathText :=
  UrlPath.solid_render ho h.segments

theorem solid_renderFront (h : u.Sound) : Solid u.renderFront := by
  refine h.scheme.append (.cons rfl ?_)
  cases ha : u.authority with
  | some a => exact .cons rfl (.cons rfl (h.authority a ha).solid_render)
  | none =>
    dsimp only
    split
    · exact .cons rfl (.cons rfl .nil)
    · exact .nil

theorem renderFront_ne_nil (h : u.Sound) : u.renderFront ≠ [] :=
  List.append_ne_nil_of_left_ne_nil h.scheme_ne_nil _

/-- Where a URL ends with its path, it does not end in white space: a path without segments has none
at its end then. -/
theorem getLast?_renderHead (h : u.Sound) (hq : u.query = none) (hf : u.fragment = none) :
    ∀ c ∈ u.renderHead.getLast?, isBlank c = false := by
  intro c hc
  cases ho : u.path.isOpaque with
  | false =>
    exact (h.solid_renderFront.append (h.solid_pathText ho)) c (List.mem_of_getLast? hc)
  | true =>
    rw [renderHead_eq, List.getLast?_append, Option.mem_def, Option.or_eq_some_iff] at hc
    obtain hc | ⟨-, hc⟩ := hc
    · exact h.opaqueEnd ho hq hf c hc
    · exact h.solid_renderFront c (List.mem_of_getLast? hc)

/-- A sound URL is written without white space at its ends. -/
theorem trimmed_render (h : u.Sound) : Trimmed u.render := by
  refine Text.trimmed_iff.mpr ⟨fun c hc => ?_, fun c hc => ?_⟩
  · rw [render, renderHead_eq, List.append_assoc, List.append_assoc,
      List.head?_append_of_ne_nil _ h.renderFront_ne_nil] at hc
    exact h.solid_renderFront c (List.mem_of_head? hc)
  · rw [render] at hc
    cases hf : u.fragment with
    | some f =>
      rw [hf, List.getLast?_append_of_ne_nil _ (List.cons_ne_nil _ _)] at hc
      exact (Solid.cons rfl (h.fragment f hf)) c (List.mem_of_getLast? hc)
    | none =>
      rw [hf, List.append_nil] at hc
      cases hq : u.query with
      | some q =>
        rw [hq, List.getLast?_append_of_ne_nil _ (List.cons_ne_nil _ _)] at hc
        exact (Solid.cons rfl (h.query q hq)) c (List.mem_of_getLast? hc)
      | none =>
        rw [hq, List.append_nil] at hc
        exact h.getLast?_renderHead hq hf c hc

end Sound

end Url
end PageRules
