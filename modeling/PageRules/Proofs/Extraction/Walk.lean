import PageRules.Extraction
import Mathlib.Data.List.Perm.Basic

/-!
# Extraction as one walk over the document

`extract` collects hits rule by rule, narrows those of each rule and sorts them all. The walk visits
the elements of the body once, in document order, and asks at each of them rule after rule whether
the rule has a record there. `Hit.all_eq_walk` says that the two give the same hits in the same
order. The order of the hits determines them: no two hits have both places in common.

That the elements of a subtree are listed in document order is `Html.Element.subtree_eq_cons`, and
`walk_subtree` is what it says of the walk.
-/

namespace PageRules

open Html (Element Document)

namespace Html.Element

/-- Siblings are listed one after another, each with all that is inside it. -/
theorem ofSiblings_eq (made : Nat) (tag : Tag) (crumbs : List Crumb) (c : Crumb)
    (hm : c.made = made) (ht : c.tag = tag) (before after : List Node) :
    ofSiblings made tag crumbs before after =
      (siblingsAfter c crumbs before after).flatMap subtree := by
  subst hm ht
  induction after generalizing before with
  | nil => rfl
  | cons n after ih =>
    cases n with
    | element made tag children =>
      simp only [ofSiblings, ofNode, siblingsAfter, ih, List.flatMap_append, List.flatMap_cons,
        List.flatMap_nil, List.append_nil]
      rfl
    | text _ | comment => simp [ofSiblings, ofNode, siblingsAfter, ih]

/-- Document order visits an element before all that is inside it, and its children one after
another. -/
theorem subtree_eq_cons (e : Element) : e.subtree = e :: e.childElements.flatMap subtree :=
  congrArg (e :: ·) (ofSiblings_eq e.made e.tag e.crumbs _ rfl rfl [] e.children)

end Html.Element

/-- The places of the elements that a selector matches. -/
def matchPlaces (s : Css.Selector) (elements : List Element) : List Nat :=
  (elements.zipIdx.filter (s.isMatch ·.1)).map (·.2)

namespace Rule

/-- The rule has a record of the element at a place among some elements: its selector can be read
and matches the element, and the section options leave the place among those of all matches. -/
def keeps (r : Rule) (elements : List Element) (e : Element) (place : Nat) : Bool :=
  match Css.Selector.read? r.selector with
  | some s => s.isMatch e && (slice r.sectionOptions (matchPlaces s elements)).contains place
  | none => false

end Rule

/-- The elements at their places in order, each with every rule that has a record of it. -/
def walk (rules : List Rule) (elements : List Element) : List (Element × Rule) :=
  elements.zipIdx.flatMap fun (e, place) =>
    (rules.filter (·.keeps elements e place)).map (e, ·)

/-- The walk over a subtree comes to the element at its root, then into its children one after
another. The places are those of the whole subtree throughout. -/
theorem walk_subtree (rules : List Rule) (e : Element) :
    walk rules e.subtree =
      (rules.filter (·.keeps e.subtree e 0)).map (e, ·) ++
        ((e.childElements.flatMap Element.subtree).zipIdx 1).flatMap fun (f, place) =>
          (rules.filter (·.keeps e.subtree f place)).map (f, ·) := by
  have horder : e.subtree.zipIdx =
      (e, 0) :: (e.childElements.flatMap Element.subtree).zipIdx 1 := by
    rw [e.subtree_eq_cons, List.zipIdx_cons]
  rw [walk, horder, List.flatMap_cons]

/-- A part of a list whose keys differ is found again by its keys. -/
theorem filter_key_of_sublist {α κ : Type} [DecidableEq κ] {key : α → κ} {s l : List α}
    (h : s.Sublist l) (hn : (l.map key).Nodup) :
    l.filter (fun a => (s.map key).contains (key a)) = s := by
  induction h with
  | slnil => rfl
  | @cons s l a hs ih =>
    rw [List.map_cons, List.nodup_cons] at hn
    have ha : key a ∉ s.map key := fun hm => hn.1 ((hs.map key).subset hm)
    rw [List.filter_cons_of_neg (by simpa using ha), ih hn.2]
  | @cons_cons s l a hs ih =>
    rw [List.map_cons, List.nodup_cons] at hn
    rw [List.filter_cons_of_pos (by simp)]
    congr 1
    rw [List.filter_congr fun b hb => ?_, ih hn.2]
    have hb : key b ≠ key a := fun he => hn.1 (he ▸ List.mem_map_of_mem hb)
    simp [hb]

theorem Rule.hits_eq_filter (r : Rule) (elements : List Element) :
    r.hits elements = elements.zipIdx.filter fun (e, place) => r.keeps elements e place := by
  unfold hits keeps
  cases Css.Selector.read? r.selector with
  | none => simp
  | some s =>
    have hn : ((elements.zipIdx.filter (s.isMatch ·.1)).map (·.2)).Nodup :=
      (List.zipIdx_map_snd 0 elements ▸ List.nodup_range').sublist
        (List.filter_sublist.map Prod.snd)
    have h := filter_key_of_sublist (slice_sublist r.sectionOptions _) hn
    rw [← slice_map, List.filter_filter] at h
    exact h.symm.trans (List.filter_congr fun _ _ => Bool.and_comm ..)

namespace Hit

/-- The hits that the walk meets. -/
def walk (rules : List Rule) (elements : List Element) : List Hit :=
  elements.zipIdx.flatMap fun (element, place) =>
    (rules.zipIdx.filter (·.1.keeps elements element place)).map fun (rule, order) =>
      { element, place, rule, order }

/-- Loops over two lists may be exchanged. -/
theorem flatMap_flatMap_perm {α β γ : Type} (l : List α) (m : List β) (f : α → β → List γ) :
    (l.flatMap fun a => m.flatMap fun b => f a b).Perm
      (m.flatMap fun b => l.flatMap fun a => f a b) := by
  induction l with
  | nil => simp
  | cons a l ih =>
    simp only [List.flatMap_cons]
    exact (ih.append_left _).trans (List.flatMap_append_perm m _ _)

theorem map_filter_eq_flatMap {α β : Type} (p : α → Bool) (f : α → β) (l : List α) :
    (l.filter p).map f = l.flatMap fun a => if p a then [f a] else [] := by
  induction l with
  | nil => rfl
  | cons a l ih =>
    by_cases h : p a
    · simp [h, ih]
    · simp [h, ih]

theorem perm_walk (rules : List Rule) (elements : List Element) :
    (rules.zipIdx.flatMap fun (rule, order) =>
      (rule.hits elements).map fun (element, place) =>
        ({ element, place, rule, order } : Hit)).Perm (walk rules elements) := by
  simp only [walk, Rule.hits_eq_filter, map_filter_eq_flatMap]
  exact flatMap_flatMap_perm ..

theorem le_trans {a b c : Hit} (h : le a b) (k : le b c) : le a c := by
  simp only [le, Bool.or_eq_true, Bool.and_eq_true, decide_eq_true_eq, beq_iff_eq] at *
  omega

theorem le_total (a b : Hit) : le a b || le b a := by
  simp only [le, Bool.or_eq_true, Bool.and_eq_true, decide_eq_true_eq, beq_iff_eq]
  omega

theorem pairwise_zipIdx {α : Type} (l : List α) : l.zipIdx.Pairwise fun a b => a.2 < b.2 := by
  rw [← List.pairwise_map, List.zipIdx_map_snd]
  exact List.pairwise_lt_range'

/-- The walk meets hits in the order of their places, and at one place in the order of the rules. -/
theorem pairwise_walk (rules : List Rule) (elements : List Element) :
    (walk rules elements).Pairwise (le · ·) := by
  rw [walk, List.pairwise_flatMap]
  constructor
  · intro a _
    rw [List.pairwise_map]
    refine ((pairwise_zipIdx rules).sublist List.filter_sublist).imp fun h => ?_
    simp [le, Nat.le_of_lt h]
  · refine (pairwise_zipIdx elements).imp fun h x hx y hy => ?_
    obtain ⟨_, _, rfl⟩ := List.mem_map.mp hx
    obtain ⟨_, _, rfl⟩ := List.mem_map.mp hy
    simp [le, h]

/-- Its two places determine a hit of the walk. -/
theorem eq_of_mem_walk {rules : List Rule} {elements : List Element} {h k : Hit}
    (hh : h ∈ walk rules elements) (hk : k ∈ walk rules elements)
    (hp : h.place = k.place) (ho : h.order = k.order) : h = k := by
  simp only [walk, List.mem_flatMap, List.mem_map, List.mem_filter, Prod.exists,
    List.mem_zipIdx_iff_getElem?] at hh hk
  obtain ⟨e, p, he, r, o, ⟨hr, -⟩, rfl⟩ := hh
  obtain ⟨e', p', he', r', o', ⟨hr', -⟩, rfl⟩ := hk
  cases hp
  cases ho
  cases he.symm.trans he'
  cases hr.symm.trans hr'
  rfl

/-- Sorting the hits of all rules gives the hits of the walk. -/
theorem all_eq_walk (rules : List Rule) (elements : List Element) :
    all rules elements = walk rules elements := by
  have hperm : (all rules elements).Perm (walk rules elements) :=
    (List.mergeSort_perm _ le).trans (perm_walk rules elements)
  have hsorted : (all rules elements).Pairwise (le · ·) :=
    @List.pairwise_mergeSort _ le (fun _ _ _ => le_trans) le_total _
  refine hperm.eq_of_pairwise (fun h k hh hk hhk hkh => ?_) hsorted (pairwise_walk rules elements)
  have hp : h.place = k.place ∧ h.order = k.order := by
    simp only [le, Bool.or_eq_true, Bool.and_eq_true, decide_eq_true_eq, beq_iff_eq] at hhk hkh
    omega
  exact eq_of_mem_walk (hperm.subset hh) hk hp.1 hp.2

theorem map_walk (rules : List Rule) (elements : List Element) :
    (walk rules elements).map (fun h => (h.element, h.rule)) = PageRules.walk rules elements := by
  simp only [walk, PageRules.walk, List.map_flatMap, List.map_map]
  congr 1
  funext ⟨e, place⟩
  calc
    _ = ((rules.zipIdx.filter (·.1.keeps elements e place)).map Prod.fst).map (e, ·) := by
      simp [Function.comp_def]
    _ = (rules.filter (·.keeps elements e place)).map (e, ·) := by
      conv_rhs => rw [← List.zipIdx_map_fst 0 rules, List.filter_map]
      rfl

end Hit

/-- The records are those of the walk over the whole body: at every element, in document order, one
record of each rule that keeps the element, in the order of the rules. The body is the first element
of `d.body.subtree`, and the subtrees of its children follow it
(`Html.Element.subtree_eq_cons`, `walk_subtree`). -/
theorem extract_eq_walk (base : Option Url) (rules : List Rule) (d : Document) :
    extract base rules d =
      (walk rules d.body.subtree).mapM fun (e, r) => r.record base e := by
  rw [extract, Hit.all_eq_walk, ← Hit.map_walk, List.mapM_map]
  rfl

end PageRules
