import PageRules.RuleText.Block
import PageRules.Scope

/-! Issues of a rule text: what was skipped and why. -/

namespace PageRules.RuleText

inductive Kind where
  | unmatchedBrace
  | unterminatedComment
  | missingSelector
  | invalidName
  | invalidPathPattern
  | duplicatePath
  | invalidOptionValue
  | reservedOption
  | unknownLine
  | nestedItems
  | duplicateItems
  | strayContent
  deriving DecidableEq

def Kind.name : Kind → Text
  | .unmatchedBrace => "unmatched-brace".toList
  | .unterminatedComment => "unterminated-comment".toList
  | .missingSelector => "missing-selector".toList
  | .invalidName => "invalid-name".toList
  | .invalidPathPattern => "invalid-path-pattern".toList
  | .duplicatePath => "duplicate-path".toList
  | .invalidOptionValue => "invalid-option-value".toList
  | .reservedOption => "reserved-option".toList
  | .unknownLine => "unknown-line".toList
  | .nestedItems => "nested-items".toList
  | .duplicateItems => "duplicate-items".toList
  | .strayContent => "stray-content".toList

inductive Issue where
  | malformed (k : Keyword) (defect : Defect)
  | unclosedComment
  | noSectionSelector (name : Text)
  | noItemsSelector
  | noFieldSelector (f : Field)
  | invalidName (name : Text)
  | noPattern
  | invalidPattern (pattern : Text) (error : Glob.Error)
  | duplicatePath (pattern : Text)
  | notInteger (e : NotInteger)
  | reservedOption
  | unknownLine (line : Text)
  | nestedItems
  | duplicateItems
  | straySection
  deriving DecidableEq

def Defect.message : Defect → Text
  | .noBrace => "expected `\x7b` on the same line".toList
  | .unmatchedBrace => "unmatched `\x7b`".toList

namespace Issue

def kind : Issue → Kind
  | .malformed _ _ => .unmatchedBrace
  | .unclosedComment => .unterminatedComment
  | .noSectionSelector _ | .noItemsSelector | .noFieldSelector _ => .missingSelector
  | .invalidName _ => .invalidName
  | .noPattern | .invalidPattern _ _ => .invalidPathPattern
  | .duplicatePath _ => .duplicatePath
  | .notInteger _ => .invalidOptionValue
  | .reservedOption => .reservedOption
  | .unknownLine _ => .unknownLine
  | .nestedItems => .nestedItems
  | .duplicateItems => .duplicateItems
  | .straySection => .strayContent

def message : Issue → Text
  | .malformed k defect => k.name ++ " block skipped: ".toList ++ defect.message
  | .unclosedComment => "comment is never closed; the rest of the text is ignored".toList
  | .noSectionSelector name => "section `".toList ++ name ++ "` has no selector".toList
  | .noItemsSelector => "items block has no selector".toList
  | .noFieldSelector f => "field `".toList ++ f.name ++ "` has no selector".toList
  | .invalidName name => "invalid section name `".toList ++ name ++ ['`']
  | .noPattern => "path block without a pattern".toList
  | .invalidPattern pattern error =>
    "invalid path pattern `".toList ++ pattern ++ "`: ".toList ++ error.message pattern
  | .duplicatePath pattern =>
    "path `".toList ++ pattern ++ "` is already defined; later block ignored".toList
  | .notInteger e => e.message
  | .reservedOption => "option key `".toList ++ OptionKey.value ++ "` is reserved".toList
  | .unknownLine line => "unrecognized line `".toList ++ line ++ ['`']
  | .nestedItems => "items blocks cannot be nested; inner block ignored".toList
  | .duplicateItems => "only the first items block of a section is used".toList
  | .straySection => "section outside any path block is ignored".toList

end Issue

/-- An issue at a position of the normal form. -/
structure Note where
  start : Nat
  issue : Issue
  deriving DecidableEq

/-- An issue on a line of the rule text; lines count from one. -/
structure Diagnostic where
  line : Nat
  issue : Issue
  deriving DecidableEq

/-- A value and what was noted while it was made, in order. -/
structure Noted (α : Type) where
  value : α
  notes : List Note := []

namespace Noted

instance : Monad Noted where
  pure a := { value := a }
  bind x f := ⟨(f x.value).value, x.notes ++ (f x.value).notes⟩

def note (start : Nat) (issue : Issue) : Noted Unit := ⟨(), [⟨start, issue⟩]⟩

def ofNotes (notes : List Note) : Noted Unit := ⟨(), notes⟩

variable {α β : Type}

@[simp] theorem value_pure (a : α) : (pure a : Noted α).value = a := rfl
@[simp] theorem notes_pure (a : α) : (pure a : Noted α).notes = [] := rfl

@[simp] theorem value_bind (x : Noted α) (f : α → Noted β) :
    (x >>= f).value = (f x.value).value := rfl

@[simp] theorem notes_bind (x : Noted α) (f : α → Noted β) :
    (x >>= f).notes = x.notes ++ (f x.value).notes := rfl

/-- The values made from the elements of a list, where they are made. -/
def collect (make : α → Noted (Option β)) : List α → Noted (List β)
  | [] => pure []
  | a :: rest => do
    let made ← make a
    let more ← collect make rest
    return made.toList ++ more

@[simp] theorem value_collect (make : α → Noted (Option β)) (l : List α) :
    (collect make l).value = l.filterMap fun a => (make a).value := by
  induction l with
  | nil => rfl
  | cons a l ih => cases h : (make a).value <;> simp [collect, ih, h]

@[simp] theorem notes_collect (make : α → Noted (Option β)) (l : List α) :
    (collect make l).notes = l.flatMap fun a => (make a).notes := by
  induction l with
  | nil => rfl
  | cons a l ih => simp [collect, ih]

end Noted
end PageRules.RuleText
