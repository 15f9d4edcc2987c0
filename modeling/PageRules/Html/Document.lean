import PageRules.Html.Element
import PageRules.Html.Rules

/-! Reading HTML documents. Every text has a document, whatever it holds. -/

namespace PageRules.Html

namespace Builder

/-- Applies rules to a token until one is done with it; `budget` bounds how often the token may be
looked at again. Gives how the text inside an element just opened is read, where it has no markup. -/
def settle (b : Builder) (token : Token) : Nat → Builder × Option RawKind
  | 0 => (b, none)
  | budget + 1 =>
    match if Rules.isForeign b token then Rules.foreignStep b token else Rules.step b token with
    | .done b => (b, none)
    | .raw kind b => (b, some kind)
    | .again mode b => settle { b with mode } token budget

/-- Reads a token. Each time it is looked at again an element was closed or the mode went on. -/
def read (b : Builder) (token : Token) : Builder × Option RawKind :=
  b.settle token (2 * b.opened.length + 32)

/-- The runs of white space and of other characters; a null character stands alone. -/
def runs (t : Text) : List Text :=
  t.splitBy fun c d => !isNul c && !isNul d && Text.isSpace c == Text.isSpace d

def runToken (run : Text) : Token := if run.any isNul then .nul else .text run

def readText (b : Builder) (t : Text) : Builder :=
  (runs t).foldl (fun b run => (b.read (runToken run)).1) b

/-- Reads a token of any kind. A document type counts only in front of everything. -/
def readToken (b : Builder) (token : Token) : Builder × Option RawKind :=
  match token with
  | .text t => (b.readText t, none)
  | .doctype _ => if b.mode = .initial then b.read token else (b, none)
  | token => b.read token

/-- The text after the token at hand, without what has no meaning there. -/
def ahead (b : Builder) (t : Text) : Text :=
  if b.skipBreak then dropBreak t else if b.skipMark then dropMark t else t

def passOver (b : Builder) : Builder := { b with skipBreak := false, skipMark := false }

theorem length_ahead_le (b : Builder) (t : Text) : (b.ahead t).length ≤ t.length := by
  unfold ahead
  split
  · exact length_dropBreak_le t
  · split
    · exact length_dropMark_le t
    · exact Nat.le_refl _

/-- The next token is inside another vocabulary than that of HTML. -/
def inForeign (b : Builder) : Bool :=
  match b.current? with
  | some n => (b.tagOf n).vocabulary != .html
  | none => false

def currentName (b : Builder) : Text := ((b.current?).map fun n => (b.tagOf n).name).getD []

/-- Reads a text to its end. -/
def readAll (b : Builder) (t : Text) : Builder :=
  match t with
  | [] => (b.read .eof).1
  | c :: rest =>
    have := length_next b.inForeign c rest
    match _h : next b.inForeign c rest with
    | (none, after) => b.readAll after
    | (some token, after) =>
      let (b, kind) := b.readToken token
      have := length_ahead_le b after
      match kind with
      | none => b.passOver.readAll (b.ahead after)
      | some kind =>
        have := length_rawText kind b.currentName (b.ahead after)
        (b.passOver.readText (rawText kind b.currentName (b.ahead after)).1).readAll
          (rawText kind b.currentName (b.ahead after)).2
termination_by t.length
decreasing_by all_goals simp_all; try omega

end Builder

structure Document where
  root : Element
  /-- Trees that were taken from the document while it was read. -/
  removed : List Node := []

namespace Document

def ofNodes : List Node → Element
  | .element made tag children :: _ => ⟨made, tag, children, []⟩
  | _ :: rest => ofNodes rest
  | [] => ⟨0, { name := "html".toList }, [], []⟩

def read (t : Text) : Document :=
  let draft := (({} : Builder).readAll (cleanInput t)).draft
  { root := ofNodes (draft.finish 0), removed := draft.finishRemoved }

/-- The body, or the root where there is none. -/
def body (d : Document) : Element :=
  (d.root.childElements.find? fun e => e.tag.name == "body".toList).getD d.root

/-- All elements that have a parent, and the root, in the order in which they were made. -/
def elements (d : Document) : List Element :=
  (d.root.subtree ++ d.removed.flatMap fun n => (Element.ofNode [] n).drop 1).mergeSort
    fun e f => e.made ≤ f.made

end Document
end PageRules.Html
