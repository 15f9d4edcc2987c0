import PageRules.Html.Draft
import PageRules.Html.Token

/-! The state of tree construction: the open elements, the formatting elements that are opened
again in later blocks, and where new nodes go. -/

namespace PageRules.Html

/-- Which rules apply to the next token. -/
inductive Mode where
  | initial
  | beforeHtml
  | beforeHead
  | inHead
  | afterHead
  | inBody
  | text
  | inTable
  | inTableText
  | inCaption
  | inColumnGroup
  | inTableBody
  | inRow
  | inCell
  | inSelect
  | inSelectInTable
  | inTemplate
  | afterBody
  | inFrameset
  | afterFrameset
  | afterAfterBody
  | afterAfterFrameset
  deriving DecidableEq

/-- An entry of the list of formatting elements. -/
inductive Formatting where
  | marker
  | element (node : Nat) (tag : Tag)

def Formatting.isMarker : Formatting → Bool
  | .marker => true
  | .element _ _ => false

def Formatting.isNode (n : Nat) : Formatting → Bool
  | .marker => false
  | .element m _ => m == n

structure Builder where
  draft : Draft := {}
  /-- The open elements, innermost first. -/
  opened : List Nat := []
  /-- The formatting elements, last first. -/
  formatting : List Formatting := []
  mode : Mode := .initial
  /-- The mode to which text returns. -/
  returnMode : Mode := .initial
  templateModes : List Mode := []
  head : Option Nat := none
  form : Option Nat := none
  framesetOk : Bool := true
  /-- The document has the old layout. -/
  oldLayout : Bool := false
  /-- Nodes that a table cannot hold go in front of it. -/
  fostering : Bool := false
  /-- A line break right after the token at hand has no meaning. -/
  skipBreak : Bool := false
  /-- A byte order mark right after the token at hand has no meaning. -/
  skipMark : Bool := false
  /-- The characters found directly in a table. -/
  tableText : Text := []

namespace Builder

/-! ### Questions -/

def named (names : List String) (name : Text) : Bool := names.contains (String.ofList name)

def isHtml (names : List String) (tag : Tag) : Bool :=
  tag.vocabulary = .html && named names tag.name

def tagOf (b : Builder) (n : Nat) : Tag := (b.draft.tag? n).getD { name := [] }

def current? (b : Builder) : Option Nat := b.opened.head?

def currentIs (b : Builder) (names : List String) : Bool :=
  (b.current?.map fun n => isHtml names (b.tagOf n)).getD false

def isOpen (b : Builder) (names : List String) : Bool :=
  b.opened.any fun n => isHtml names (b.tagOf n)

/-- Text in this element of another vocabulary is read as in HTML. -/
def isMathText (tag : Tag) : Bool :=
  tag.vocabulary = .mathml && named ["mi", "mo", "mn", "ms", "mtext"] tag.name

/-- The content of this element of another vocabulary is HTML. -/
def holdsHtml (tag : Tag) : Bool :=
  tag.vocabulary = .svg && named ["foreignObject", "desc", "title"] tag.name

def boundsScope (tag : Tag) : Bool :=
  isHtml ["applet", "caption", "html", "table", "td", "th", "marquee", "object", "template"] tag ||
    isMathText tag || holdsHtml tag

def boundsListScope (tag : Tag) : Bool := boundsScope tag || isHtml ["ol", "ul"] tag

def boundsButtonScope (tag : Tag) : Bool := boundsScope tag || isHtml ["button"] tag

def boundsTableScope (tag : Tag) : Bool := isHtml ["html", "table", "template"] tag

def boundsSelectScope (tag : Tag) : Bool := !isHtml ["optgroup", "option"] tag

/-- An open element satisfies `p`, and none inside it bounds the scope. -/
def inScope (b : Builder) (bounds : Tag → Bool) (p : Nat → Tag → Bool) : Bool :=
  search b.opened
where
  search : List Nat → Bool
    | [] => false
    | n :: ns => p n (b.tagOf n) || (!bounds (b.tagOf n) && search ns)

def hasInScope (b : Builder) (bounds : Tag → Bool) (names : List String) : Bool :=
  b.inScope bounds fun _ tag => isHtml names tag

def headings : List String := ["h1", "h2", "h3", "h4", "h5", "h6"]

def specialNames : List String :=
  ["address", "applet", "area", "article", "aside", "base", "basefont", "bgsound", "blockquote",
    "body", "br", "button", "caption", "center", "col", "colgroup", "dd", "details", "dir", "div",
    "dl", "dt", "embed", "fieldset", "figcaption", "figure", "footer", "form", "frame", "frameset",
    "h1", "h2", "h3", "h4", "h5", "h6", "head", "header", "hgroup", "hr", "html", "iframe", "img",
    "input", "isindex", "li", "link", "listing", "main", "marquee", "menu", "meta", "nav", "noembed",
    "noframes", "noscript", "object", "ol", "p", "param", "plaintext", "pre", "script", "section",
    "select", "source", "style", "summary", "table", "tbody", "td", "template", "textarea", "tfoot",
    "th", "thead", "title", "tr", "track", "ul", "wbr", "xmp"]

/-- Elements that bound formatting and the search for the element that an end tag closes. -/
def isSpecial (tag : Tag) : Bool := isHtml specialNames tag

/-! ### Open elements -/

def pop (b : Builder) : Builder := { b with opened := b.opened.drop 1 }

/-- Closes elements up to, but not including, the first that satisfies `p`. -/
def popTo (b : Builder) (p : Tag → Bool) : Builder :=
  { b with opened := b.opened.dropWhile fun n => !p (b.tagOf n) }

/-- Closes elements up to and including the first of some names. -/
def popThrough (b : Builder) (names : List String) : Builder := (b.popTo (isHtml names)).pop

def impliedEnds : List String :=
  ["dd", "dt", "li", "option", "optgroup", "p", "rb", "rp", "rt", "rtc"]

def allImpliedEnds : List String :=
  impliedEnds ++ ["caption", "colgroup", "tbody", "td", "tfoot", "th", "thead", "tr"]

/-- Closes elements whose end tags may be left out, apart from some names. -/
def closeImplied (b : Builder) (ends kept : List String) : Builder :=
  b.popTo fun tag => !(isHtml ends tag && !isHtml kept tag)

/-- Closes the element of a name with those inside it. -/
def closeNamed (b : Builder) (name : String) : Builder :=
  (b.closeImplied impliedEnds [name]).popThrough [name]

/-- Closes the paragraph at hand. -/
def closeParagraph (b : Builder) : Builder :=
  if b.hasInScope boundsButtonScope ["p"] then b.closeNamed "p" else b

def removeOpen (b : Builder) (n : Nat) : Builder := { b with opened := b.opened.filter (· != n) }

/-! ### Places -/

inductive Place where
  | lastIn (parent : Nat)
  | before (sibling : Nat)

/-- The place in front of the innermost table. -/
def fosterPlace (b : Builder) : List Nat → Place
  | [] => .lastIn 0
  | [n] => .lastIn n
  | n :: m :: ns =>
    if isHtml ["template"] (b.tagOf n) then .lastIn n
    else if isHtml ["table"] (b.tagOf n) then
      if (b.draft.parent? n).isSome then .before n else .lastIn m
    else b.fosterPlace (m :: ns)

/-- Where a node goes that is meant for `target`. -/
def placeIn (b : Builder) (target : Nat) : Place :=
  if b.fostering && isHtml ["table", "tbody", "tfoot", "thead", "tr"] (b.tagOf target) then
    b.fosterPlace b.opened
  else .lastIn target

def put (b : Builder) (place : Place) (n : Nat) : Builder :=
  match place with
  | .lastIn p => { b with draft := b.draft.append p n }
  | .before s => { b with draft := b.draft.insertBefore s n }

def addText (b : Builder) (t : Text) : Builder :=
  match b.placeIn ((b.current?).getD 0) with
  | .lastIn p => { b with draft := b.draft.appendText p t }
  | .before s => { b with draft := b.draft.textBefore s t }

def addComment (b : Builder) (parent : Nat) : Builder :=
  let (n, d) := b.draft.add .comment
  { b with draft := d.append parent n }

/-- Inserts an element at the place at hand, and gives its number. -/
def insertClosed (b : Builder) (tag : Tag) : Nat × Builder :=
  let (n, d) := b.draft.add (.element tag)
  let b := { b with draft := d }
  (n, b.put (b.placeIn ((b.current?).getD 0)) n)

/-- Inserts an element and opens it. -/
def insertOpen (b : Builder) (tag : Tag) : Builder :=
  let (n, b) := b.insertClosed tag
  { b with opened := n :: b.opened }

def insertEmpty (b : Builder) (tag : Tag) : Builder := (b.insertClosed tag).2

def insertNamed (b : Builder) (name : String) : Builder := b.insertOpen { name := name.toList }

/-! ### Formatting elements -/

def addMarker (b : Builder) : Builder := { b with formatting := .marker :: b.formatting }

/-- Forgets the formatting elements up to the last marker. -/
def clearToMarker (b : Builder) : Builder :=
  { b with formatting := (b.formatting.dropWhile (!Formatting.isMarker ·)).drop 1 }

def isFormatting (b : Builder) (n : Nat) : Bool := b.formatting.any (Formatting.isNode n)

def removeFormatting (b : Builder) (n : Nat) : Builder :=
  { b with formatting := b.formatting.filter (!Formatting.isNode n ·) }

/-- The formatting elements after the last marker. -/
def sinceMarker (b : Builder) : List (Nat × Tag) :=
  (b.formatting.takeWhile (!Formatting.isMarker ·)).filterMap fun
    | .marker => none
    | .element n tag => some (n, tag)

def sameFormatting (a b : Tag) : Bool :=
  a.name == b.name && a.attributes.all b.attributes.contains &&
    b.attributes.all a.attributes.contains

/-- Remembers an open formatting element; of more than three equal ones the earliest is
forgotten. -/
def pushFormatting (b : Builder) (n : Nat) (tag : Tag) : Builder :=
  let equal := b.sinceMarker.filter fun (_, t) => sameFormatting t tag
  let b := match equal[2]? with
    | some (earliest, _) => b.removeFormatting earliest
    | none => b
  { b with formatting := .element n tag :: b.formatting }

def insertFormatting (b : Builder) (tag : Tag) : Builder :=
  let (n, b) := b.insertClosed tag
  { b with opened := n :: b.opened }.pushFormatting n tag

/-- The entries that are not open, last first, and the entries before them. -/
def splitClosed (b : Builder) : List Formatting → List Formatting × List Formatting
  | [] => ([], [])
  | .marker :: rest => ([], .marker :: rest)
  | .element n tag :: rest =>
    if b.opened.contains n then ([], .element n tag :: rest)
    else
      let (closed, before) := b.splitClosed rest
      (.element n tag :: closed, before)

/-- Opens again the formatting elements that a block has closed. -/
def reconstruct (b : Builder) : Builder :=
  let (closed, before) := b.splitClosed b.formatting
  closed.reverse.foldl (fun b entry =>
    match entry with
    | .marker => b
    | .element _ tag =>
      let (n, b) := b.insertClosed tag
      { b with opened := n :: b.opened, formatting := .element n tag :: b.formatting })
    { b with formatting := before }

/-! ### Misnested formatting -/

/-- Closes the element of a name that no special element hides. -/
def closeAnyNamed (b : Builder) (name : Text) : Builder :=
  let isTarget (n : Nat) : Bool := (b.tagOf n).vocabulary = .html && (b.tagOf n).name == name
  match b.opened.find? fun n => isTarget n || isSpecial (b.tagOf n) with
  | some n =>
    if isTarget n then { b with opened := (b.opened.dropWhile (· != n)).drop 1 } else b
  | none => b

/-- Where a formatting element that moves is put into the list. -/
inductive Bookmark where
  | inPlaceOf (n : Nat)
  | behind (n : Nat)

/-- The elements between a block and the formatting element around it are copied, innermost first,
and each copy takes what was copied before it. The first three stay, and of the others those that
are no formatting elements are closed. `between` are the elements that are left to look at; `kept`
are the open elements inside them. -/
def copyBetween (block : Nat) (count last : Nat) (mark : Bookmark) (kept : List Nat) (b : Builder) :
    List Nat → Nat × Bookmark × List Nat × Builder
  | [] => (last, mark, kept, b)
  | n :: rest =>
    let entry := b.formatting.find? (Formatting.isNode n)
    match entry with
    | some (.element _ tag) =>
      if 3 < count then copyBetween block (count + 1) last mark kept (b.removeFormatting n) rest
      else
        let (copy, d) := b.draft.add (.element tag)
        let replace (f : Formatting) : Formatting :=
          if f.isNode n then .element copy tag else f
        let b := { b with
          draft := d.append copy last
          formatting := b.formatting.map replace }
        let mark := if last = block then .behind copy else mark
        copyBetween block (count + 1) copy mark (kept ++ [copy]) b rest
    | _ => copyBetween block (count + 1) last mark kept b rest

/-- Puts an entry into the list where the bookmark is. -/
def placeEntry (mark : Bookmark) (old : Nat) (entry : Formatting) (l : List Formatting) :
    List Formatting :=
  match mark with
  | .inPlaceOf n => l.map fun f => if f.isNode n then entry else f
  | .behind n => (l.flatMap fun f => if f.isNode n then [entry, f] else [f]).filter
      (!Formatting.isNode old ·)

/-- One round of closing a misnested formatting element: the block inside it is moved out, and its
content is wrapped in a copy. The answer says whether another round may follow. -/
def adoptOnce (b : Builder) (name : Text) : Bool × Builder :=
  match b.sinceMarker.find? fun (_, tag) => tag.name == name with
  | none => (false, b.closeAnyNamed name)
  | some (n, tag) =>
    if !b.opened.contains n then (false, b.removeFormatting n)
    else if !b.inScope boundsScope fun m _ => m == n then (false, b)
    else
      let inside := b.opened.takeWhile (· != n)
      let outside := (b.opened.dropWhile (· != n)).drop 1
      match inside.reverse.find? fun m => isSpecial (b.tagOf m), outside with
      | some block, ancestor :: _ =>
        let innermost := inside.takeWhile (· != block)
        let between := (inside.dropWhile (· != block)).drop 1
        let (last, mark, kept, b) := copyBetween block 1 block (.inPlaceOf n) [] b between
        let b := { b with draft := b.draft.detach last }
        let b := b.put (b.placeIn ancestor) last
        let (copy, d) := b.draft.add (.element tag)
        let b := { b with
          draft := (d.moveChildren block copy).append block copy
          formatting := placeEntry mark n (.element copy tag) b.formatting
          opened := innermost ++ copy :: block :: kept ++ outside }
        (true, b)
      | _, _ => (false, { b with opened := outside }.removeFormatting n)

/-- At most so many rounds of closing a misnested formatting element. -/
def adoptRounds (b : Builder) (name : Text) : Nat → Builder
  | 0 => b
  | rounds + 1 =>
    match b.adoptOnce name with
    | (true, b) => b.adoptRounds name rounds
    | (false, b) => b

/-- Closes a formatting element, also where blocks inside it are still open. -/
def adopt (b : Builder) (name : Text) : Builder :=
  let closesHere := (b.current?.map fun n =>
    (b.tagOf n).vocabulary = .html && (b.tagOf n).name == name && !b.isFormatting n).getD false
  if closesHere then b.pop else b.adoptRounds name 8

/-! ### The mode after an element is closed -/

/-- The mode for the innermost open element that decides it. -/
def modeFor (b : Builder) : List Nat → Mode
  | [] => .inBody
  | n :: outer =>
    let tag := b.tagOf n
    let is (names : List String) : Bool := isHtml names tag
    if is ["td", "th"] && !outer.isEmpty then .inCell
    else if is ["tr"] then .inRow
    else if is ["tbody", "thead", "tfoot"] then .inTableBody
    else if is ["caption"] then .inCaption
    else if is ["colgroup"] then .inColumnGroup
    else if is ["table"] then .inTable
    else if is ["template"] then b.templateModes.headD .inBody
    else if is ["head"] && !outer.isEmpty then .inHead
    else if is ["body"] then .inBody
    else if is ["frameset"] then .inFrameset
    else if is ["html"] then (if b.head.isSome then .afterHead else .beforeHead)
    else if is ["select"] then
      match outer.find? fun m => isHtml ["template", "table"] (b.tagOf m) with
      | some m => if isHtml ["table"] (b.tagOf m) then .inSelectInTable else .inSelect
      | none => .inSelect
    else b.modeFor outer

def resetMode (b : Builder) : Builder := { b with mode := b.modeFor b.opened }

end Builder
end PageRules.Html
