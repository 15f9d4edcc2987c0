import PageRules.Text.Basic

/-! The keywords that open blocks of a rule text. They are read in any letter case and are followed
by a colon, with blanks allowed before it. -/

namespace PageRules.RuleText

inductive Keyword where
  | path
  | section
  | items
  deriving DecidableEq

namespace Keyword

def name : Keyword → Text
  | .path => "path".toList
  | .section => "section".toList
  | .items => "items".toList

/-- The text after a word at the front, whatever its letter case. -/
def afterWord? : Text → Text → Option Text
  | [], t => some t
  | w :: word, c :: t => if w == c.toLower then afterWord? word t else none
  | _ :: _, [] => none

/-- The text after the keyword and its colon at the front. -/
def after? (k : Keyword) (t : Text) : Option Text :=
  match afterWord? k.name t with
  | some rest =>
    match rest.dropWhile Text.isGap with
    | ':' :: header => some header
    | _ => none
  | none => none

theorem length_afterWord? {word t rest : Text} (h : afterWord? word t = some rest) :
    rest.length + word.length = t.length := by
  fun_induction afterWord? word t with
  | case1 => cases h; simp
  | case2 _ _ _ _ _ ih => simp [← ih h]; omega
  | case3 => cases h
  | case4 => cases h

theorem length_after? {k : Keyword} {t header : Text} (h : k.after? t = some header) :
    header.length < t.length := by
  unfold after? at h
  split at h
  · rename_i rest hw
    have hl := length_afterWord? hw
    split at h
    · rename_i hd
      cases h
      have := Text.length_dropWhile_le Text.isGap rest
      rw [hd] at this
      simp at this
      omega
    · cases h
  · cases h

end Keyword
end PageRules.RuleText
