import PageRules.Html.Builder

/-! The rules of tree construction: what each token does in each mode. -/

namespace PageRules.Html

/-- What a rule leads to. -/
inductive Outcome where
  | done (b : Builder)
  /-- The token is looked at again in another mode. -/
  | again (mode : Mode) (b : Builder)
  /-- The text inside the element just opened is read without markup. -/
  | raw (kind : RawKind) (b : Builder)

def Outcome.map (f : Builder → Builder) : Outcome → Outcome
  | .done b => .done (f b)
  | .again mode b => .again mode (f b)
  | .raw kind b => .raw kind (f b)

namespace Rules

open Builder

def isBlank (t : Text) : Bool := t.all Text.isSpace

/-- Opens an element whose text is read without markup. -/
def openRaw (kind : RawKind) (b : Builder) (tag : Tag) : Outcome :=
  .raw kind { b.insertOpen tag with returnMode := b.mode, mode := .text }

/-- The attributes of another `html` tag join those of the first. -/
def mergeHtml (b : Builder) (attributes : List Attribute) : Outcome :=
  match b.opened.getLast? with
  | some n =>
    .done (if b.isOpen ["template"] then b
      else { b with draft := b.draft.addAttributes n attributes })
  | none => .done b

/-- The element at hand is closed together with its formatting. -/
def closeWithFormatting (b : Builder) (name : String) : Builder :=
  (b.closeNamed name).clearToMarker

def closeTemplate (b : Builder) : Builder :=
  if b.isOpen ["template"] then
    let b := (b.closeImplied allImpliedEnds []).popThrough ["template"]
    { b.clearToMarker with templateModes := b.templateModes.drop 1 }.resetMode
  else b

/-- End tags that may stand anywhere before the body. -/
def earlyEnds : List String := ["body", "html", "br"]

def initial (b : Builder) : Token → Outcome
  | .text t => if isBlank t then .done b else .again .beforeHtml { b with oldLayout := true }
  | .comment => .done (b.addComment 0)
  | .doctype d => .done { b with oldLayout := d.isOld, mode := .beforeHtml }
  | _ => .again .beforeHtml { b with oldLayout := true }

def createRoot (b : Builder) (attributes : List Attribute) : Builder :=
  let (n, d) := b.draft.add (.element { name := "html".toList, attributes })
  { b with draft := d.append 0 n, opened := [n] }

def beforeHtml (b : Builder) (token : Token) : Outcome :=
  let otherwise : Outcome := .again .beforeHead (createRoot b [])
  match token with
  | .doctype _ => .done b
  | .comment => .done (b.addComment 0)
  | .text t => if isBlank t then .done b else otherwise
  | .start name attributes _ =>
    if named ["html"] name then .done { createRoot b attributes with mode := .beforeHead }
    else otherwise
  | .stop name => if named ("head" :: earlyEnds) name then otherwise else .done b
  | _ => otherwise

def openHead (b : Builder) (attributes : List Attribute) : Builder :=
  let b := b.insertOpen { name := "head".toList, attributes }
  { b with head := b.current? }

def beforeHead (b : Builder) (token : Token) : Outcome :=
  let otherwise : Outcome := .again .inHead (openHead b [])
  match token with
  | .doctype _ => .done b
  | .comment => .done (b.addComment ((b.current?).getD 0))
  | .text t => if isBlank t then .done b else otherwise
  | .start name attributes _ =>
    if named ["html"] name then mergeHtml b attributes
    else if named ["head"] name then .done { openHead b attributes with mode := .inHead }
    else otherwise
  | .stop name => if named ("head" :: earlyEnds) name then otherwise else .done b
  | _ => otherwise

/-- Elements that belong in the head. -/
def headNames : List String :=
  ["base", "basefont", "bgsound", "link", "meta", "noframes", "script", "style", "template", "title"]

/-- A start tag of an element that belongs in the head. -/
def startInHead (b : Builder) (tag : Tag) : Outcome :=
  if named ["title"] tag.name then openRaw .escapable b tag
  else if named ["noframes", "style", "noscript"] tag.name then openRaw .raw b tag
  else if named ["script"] tag.name then openRaw .script b tag
  else if named ["template"] tag.name then
    .done { (b.insertOpen tag).addMarker with
      framesetOk := false, mode := .inTemplate, templateModes := .inTemplate :: b.templateModes }
  else .done (b.insertEmpty tag)

def inHead (b : Builder) (token : Token) : Outcome :=
  let otherwise : Outcome := .again .afterHead b.pop
  match token with
  | .doctype _ => .done b
  | .comment => .done (b.addComment ((b.current?).getD 0))
  | .text t => if isBlank t then .done (b.addText t) else otherwise
  | .start name attributes _ =>
    if named ["html"] name then mergeHtml b attributes
    else if named ("noscript" :: headNames) name then startInHead b { name, attributes }
    else if named ["head"] name then .done b
    else otherwise
  | .stop name =>
    if named ["head"] name then .done { b.pop with mode := .afterHead }
    else if named earlyEnds name then otherwise
    else if named ["template"] name then .done (closeTemplate b)
    else .done b
  | _ => otherwise

def afterHead (b : Builder) (token : Token) : Outcome :=
  let otherwise : Outcome := .again .inBody (b.insertNamed "body")
  match token with
  | .doctype _ => .done b
  | .comment => .done (b.addComment ((b.current?).getD 0))
  | .text t => if isBlank t then .done (b.addText t) else otherwise
  | .start name attributes _ =>
    let tag : Tag := { name, attributes }
    if named ["html"] name then mergeHtml b attributes
    else if named ["body"] name then
      .done { b.insertOpen tag with framesetOk := false, mode := .inBody }
    else if named ["frameset"] name then .done { b.insertOpen tag with mode := .inFrameset }
    else if named headNames name then
      match b.head with
      | some head =>
        (startInHead { b with opened := head :: b.opened } tag).map (·.removeOpen head)
      | none => .done b
    else if named ["head"] name then .done b
    else otherwise
  | .stop name =>
    if named ["template"] name then .done (closeTemplate b)
    else if named earlyEnds name then otherwise
    else .done b
  | _ => otherwise

/-! ### The body -/

/-- Blocks that end a paragraph where they start. -/
def blockNames : List String :=
  ["address", "article", "aside", "blockquote", "center", "details", "dialog", "dir", "div", "dl",
    "fieldset", "figcaption", "figure", "footer", "header", "hgroup", "main", "menu", "nav", "ol",
    "search", "section", "summary", "ul"]

def formattingNames : List String :=
  ["b", "big", "code", "em", "font", "i", "s", "small", "strike", "strong", "tt", "u"]

def tablePartNames : List String :=
  ["caption", "col", "colgroup", "tbody", "td", "tfoot", "th", "thead", "tr"]

def isHiddenInput (tag : Tag) : Bool :=
  named ["input"] tag.name &&
    match tag.attribute? "type".toList with
    | some value => Text.eqIgnoreCase value "hidden".toList
    | none => false

/-- Closes the list item that a new one ends. Blocks other than a few plain ones hide it. -/
def closeItem (b : Builder) (names : List String) : Builder :=
  let decides (tag : Tag) : Bool :=
    isHtml names tag || (isSpecial tag && !isHtml ["address", "div", "p"] tag)
  match b.opened.find? fun n => decides (b.tagOf n) with
  | some n =>
    if isHtml names (b.tagOf n) then b.closeNamed (String.ofList (b.tagOf n).name) else b
  | none => b

/-- A new link closes the link that is still open. -/
def closeLink (b : Builder) : Builder :=
  match b.sinceMarker.find? fun (_, tag) => tag.name == ['a'] with
  | some (n, _) => ((b.adopt ['a']).removeFormatting n).removeOpen n
  | none => b

def openFrameset (b : Builder) (tag : Tag) : Builder :=
  match b.opened.reverse with
  | html :: body :: _ =>
    if b.framesetOk && isHtml ["body"] (b.tagOf body) then
      { { b with draft := b.draft.detach body, opened := [html] }.insertOpen tag with
        mode := .inFrameset }
    else b
  | _ => b

def mergeBody (b : Builder) (attributes : List Attribute) : Builder :=
  match b.opened.reverse with
  | _ :: body :: _ =>
    if isHtml ["body"] (b.tagOf body) && !b.isOpen ["template"] then
      { b with framesetOk := false, draft := b.draft.addAttributes body attributes }
    else b
  | _ => b

/-- Names of SVG elements that have capital letters. -/
def svgNames : List String :=
  ["altGlyph", "altGlyphDef", "altGlyphItem", "animateColor", "animateMotion", "animateTransform",
    "clipPath", "feBlend", "feColorMatrix", "feComponentTransfer", "feComposite",
    "feConvolveMatrix", "feDiffuseLighting", "feDisplacementMap", "feDistantLight", "feDropShadow",
    "feFlood", "feFuncA", "feFuncB", "feFuncG", "feFuncR", "feGaussianBlur", "feImage", "feMerge",
    "feMergeNode", "feMorphology", "feOffset", "fePointLight", "feSpecularLighting", "feSpotLight",
    "feTile", "feTurbulence", "foreignObject", "glyphRef", "linearGradient", "radialGradient",
    "textPath"]

/-- Names of SVG attributes that have capital letters. -/
def svgAttributes : List String :=
  ["attributeName", "attributeType", "baseFrequency", "baseProfile", "calcMode", "clipPathUnits",
    "diffuseConstant", "edgeMode", "filterUnits", "glyphRef", "gradientTransform", "gradientUnits",
    "kernelMatrix", "kernelUnitLength", "keyPoints", "keySplines", "keyTimes", "lengthAdjust",
    "limitingConeAngle", "markerHeight", "markerUnits", "markerWidth", "maskContentUnits",
    "maskUnits", "numOctaves", "pathLength", "patternContentUnits", "patternTransform",
    "patternUnits", "pointsAtX", "pointsAtY", "pointsAtZ", "preserveAlpha", "preserveAspectRatio",
    "primitiveUnits", "refX", "refY", "repeatCount", "repeatDur", "requiredExtensions",
    "requiredFeatures", "specularConstant", "specularExponent", "spreadMethod", "startOffset",
    "stdDeviation", "stitchTiles", "surfaceScale", "systemLanguage", "tableValues", "targetX",
    "targetY", "textLength", "viewBox", "viewTarget", "xChannelSelector", "yChannelSelector",
    "zoomAndPan"]

/-- Attributes of the vocabularies of links, of XML and of name spaces. -/
def foreignAttributes : List String :=
  ["xlink:actuate", "xlink:arcrole", "xlink:href", "xlink:role", "xlink:show", "xlink:title",
    "xlink:type", "xml:lang", "xml:space", "xmlns", "xmlns:xlink"]

/-- The spelling of a name in a list that differs from it only in letter case. -/
def respell (names : List String) (name : Text) : Text :=
  match names.find? fun n => Text.lower n.toList == name with
  | some n => n.toList
  | none => name

def foreignAttribute (vocabulary : Vocabulary) (a : Attribute) : Attribute :=
  let name := match vocabulary with
    | .svg => respell svgAttributes a.name
    | .mathml => respell ["definitionURL"] a.name
    | .html => a.name
  if named foreignAttributes name then
    { a with name := Text.afterLast (· == ':') name, foreign := true }
  else { a with name }

/-- Opens an element of another vocabulary, unless its tag closes itself. -/
def openForeign (b : Builder) (vocabulary : Vocabulary) (tag : Tag) (selfClosing : Bool) :
    Builder :=
  let name := match vocabulary with
    | .svg => respell svgNames tag.name
    | _ => tag.name
  let tag : Tag :=
    { name, vocabulary, attributes := tag.attributes.map (foreignAttribute vocabulary) }
  if selfClosing then b.insertEmpty tag else b.insertOpen tag

def startInBody (b : Builder) (tag : Tag) (selfClosing : Bool) : Outcome :=
  let is (names : List String) : Bool := named names tag.name
  if is ["html"] then mergeHtml b tag.attributes
  else if is headNames then startInHead b tag
  else if is ["body"] then .done (mergeBody b tag.attributes)
  else if is ["frameset"] then .done (openFrameset b tag)
  else if is ("p" :: blockNames) then .done (b.closeParagraph.insertOpen tag)
  else if is headings then
    let b := b.closeParagraph
    .done ((if b.currentIs headings then b.pop else b).insertOpen tag)
  else if is ["pre", "listing"] then
    .done { b.closeParagraph.insertOpen tag with skipBreak := true, framesetOk := false }
  else if is ["form"] then
    if b.form.isSome && !b.isOpen ["template"] then .done b
    else
      let inTemplate := b.isOpen ["template"]
      let b := b.closeParagraph.insertOpen tag
      .done (if inTemplate then b else { b with form := b.current? })
  else if is ["li"] then
    .done ((closeItem { b with framesetOk := false } ["li"]).closeParagraph.insertOpen tag)
  else if is ["dd", "dt"] then
    .done ((closeItem { b with framesetOk := false } ["dd", "dt"]).closeParagraph.insertOpen tag)
  else if is ["plaintext"] then .raw .plain (b.closeParagraph.insertOpen tag)
  else if is ["button"] then
    let b := if b.hasInScope boundsScope ["button"] then
      (b.closeImplied impliedEnds []).popThrough ["button"] else b
    .done { b.reconstruct.insertOpen tag with framesetOk := false }
  else if is ["a"] then .done ((closeLink b).reconstruct.insertFormatting tag)
  else if is formattingNames then .done (b.reconstruct.insertFormatting tag)
  else if is ["nobr"] then
    let b := b.reconstruct
    let b := if b.hasInScope boundsScope ["nobr"] then (b.adopt tag.name).reconstruct else b
    .done (b.insertFormatting tag)
  else if is ["applet", "marquee", "object"] then
    .done { (b.reconstruct.insertOpen tag).addMarker with framesetOk := false }
  else if is ["table"] then
    let b := if b.oldLayout then b else b.closeParagraph
    .done { b.insertOpen tag with framesetOk := false, mode := .inTable }
  else if is ["area", "br", "embed", "img", "image", "keygen", "wbr", "input"] then
    let tag := if is ["image"] then { tag with name := "img".toList } else tag
    .done { b.reconstruct.insertEmpty tag with framesetOk := b.framesetOk && isHiddenInput tag }
  else if is ["param", "source", "track"] then .done (b.insertEmpty tag)
  else if is ["hr"] then .done { b.closeParagraph.insertEmpty tag with framesetOk := false }
  else if is ["textarea"] then
    openRaw .escapable { b with skipBreak := true, framesetOk := false } tag
  else if is ["xmp"] then
    openRaw .raw { b.closeParagraph.reconstruct with framesetOk := false } tag
  else if is ["iframe"] then openRaw .raw { b with framesetOk := false } tag
  else if is ["noembed", "noscript"] then openRaw .raw b tag
  else if is ["select"] then
    let inTable := [Mode.inTable, .inCaption, .inTableBody, .inRow, .inCell].contains b.mode
    .done { b.reconstruct.insertOpen tag with
      framesetOk := false, mode := if inTable then .inSelectInTable else .inSelect }
  else if is ["optgroup", "option"] then
    .done ((if b.currentIs ["option"] then b.pop else b).reconstruct.insertOpen tag)
  else if is ["rb", "rtc"] then
    .done ((if b.hasInScope boundsScope ["ruby"] then b.closeImplied impliedEnds [] else b).insertOpen
      tag)
  else if is ["rp", "rt"] then
    .done ((if b.hasInScope boundsScope ["ruby"] then
      b.closeImplied impliedEnds ["rtc"] else b).insertOpen tag)
  else if is ["math"] then .done (openForeign b .mathml tag selfClosing)
  else if is ["svg"] then .done (openForeign b .svg tag selfClosing)
  else if is ("frame" :: "head" :: tablePartNames) then .done b
  else .done (b.reconstruct.insertOpen tag)

def closeForm (b : Builder) : Builder :=
  if b.isOpen ["template"] then
    if b.hasInScope boundsScope ["form"] then
      (b.closeImplied impliedEnds []).popThrough ["form"]
    else b
  else match b.form with
    | none => b
    | some n =>
      let b := { b with form := none }
      if b.inScope boundsScope fun m _ => m == n then
        (b.closeImplied impliedEnds []).removeOpen n
      else b

def stopInBody (b : Builder) (name : Text) : Outcome :=
  let is (names : List String) : Bool := named names name
  let closeIf (inScope : Bool) (f : Builder → Builder) : Outcome := .done (if inScope then f b else b)
  let here := String.ofList name
  if is ["template"] then .done (closeTemplate b)
  else if is ["body"] then
    if b.hasInScope boundsScope ["body"] then .done { b with mode := .afterBody } else .done b
  else if is ["html"] then
    if b.hasInScope boundsScope ["body"] then .again .afterBody b else .done b
  else if is ("button" :: "listing" :: "pre" :: blockNames) then
    closeIf (b.hasInScope boundsScope [here]) (·.closeNamed here)
  else if is ["form"] then .done (closeForm b)
  else if is ["p"] then
    let b := if b.hasInScope boundsButtonScope ["p"] then b else b.insertNamed "p"
    .done (b.closeNamed "p")
  else if is ["li"] then closeIf (b.hasInScope boundsListScope ["li"]) (·.closeNamed "li")
  else if is ["dd", "dt"] then closeIf (b.hasInScope boundsScope [here]) (·.closeNamed here)
  else if is headings then
    closeIf (b.hasInScope boundsScope headings) fun b =>
      (b.closeImplied impliedEnds []).popThrough headings
  else if is ("a" :: "nobr" :: formattingNames) then .done (b.adopt name)
  else if is ["applet", "marquee", "object"] then
    closeIf (b.hasInScope boundsScope [here]) (closeWithFormatting · here)
  else if is ["br"] then startInBody b { name } false
  else .done (b.closeAnyNamed name)

def inBody (b : Builder) : Token → Outcome
  | .doctype _ => .done b
  | .comment => .done (b.addComment ((b.current?).getD 0))
  | .nul => .done b
  | .text t => .done { b.reconstruct.addText t with framesetOk := b.framesetOk && isBlank t }
  | .start name attributes selfClosing => startInBody b { name, attributes } selfClosing
  | .stop name => stopInBody b name
  | .eof => if b.templateModes.isEmpty then .done b else .again .inTemplate b

def inText (b : Builder) : Token → Outcome
  | .text t => .done (b.addText t)
  | .stop name =>
    .done { b.pop with mode := b.returnMode, skipMark := named ["script"] name }
  | .eof => .again b.returnMode b.pop
  | _ => .done b

/-! ### Tables -/

/-- Reads a token as in the body, and puts what a table cannot hold in front of it. -/
def fosterInBody (b : Builder) (token : Token) : Outcome :=
  (inBody { b with fostering := true } token).map fun b => { b with fostering := false }

def clearTo (b : Builder) (names : List String) : Builder := b.popTo (isHtml names)

def clearToTable (b : Builder) : Builder := clearTo b ["table", "template", "html"]

def clearToTableBody (b : Builder) : Builder :=
  clearTo b ["tbody", "tfoot", "thead", "template", "html"]

def clearToRow (b : Builder) : Builder := clearTo b ["tr", "template", "html"]

def inTable (b : Builder) (token : Token) : Outcome :=
  match token with
  | .doctype _ => .done b
  | .comment => .done (b.addComment ((b.current?).getD 0))
  | .text _ | .nul =>
    if b.currentIs ["table", "tbody", "tfoot", "thead", "tr"] then
      .again .inTableText { b with tableText := [], returnMode := b.mode }
    else fosterInBody b token
  | .start name attributes _ =>
    let tag : Tag := { name, attributes }
    let is (names : List String) : Bool := named names name
    if is ["caption"] then
      .done { (clearToTable b).addMarker.insertOpen tag with mode := .inCaption }
    else if is ["colgroup"] then
      .done { (clearToTable b).insertOpen tag with mode := .inColumnGroup }
    else if is ["col"] then .again .inColumnGroup ((clearToTable b).insertNamed "colgroup")
    else if is ["tbody", "tfoot", "thead"] then
      .done { (clearToTable b).insertOpen tag with mode := .inTableBody }
    else if is ["td", "th", "tr"] then
      .again .inTableBody ((clearToTable b).insertNamed "tbody")
    else if is ["table"] then
      if b.hasInScope boundsTableScope ["table"] then
        let b := (b.popThrough ["table"]).resetMode
        .again b.mode b
      else .done b
    else if is ["style", "script", "template"] then startInHead b tag
    else if is ["input"] && isHiddenInput tag then .done (b.insertEmpty tag)
    else if is ["form"] then
      if b.isOpen ["template"] || b.form.isSome then .done b
      else
        let (n, b) := b.insertClosed tag
        .done { b with form := some n }
    else fosterInBody b token
  | .stop name =>
    if named ["table"] name then
      if b.hasInScope boundsTableScope ["table"] then .done (b.popThrough ["table"]).resetMode
      else .done b
    else if named ("body" :: "html" :: tablePartNames) name then .done b
    else if named ["template"] name then .done (closeTemplate b)
    else fosterInBody b token
  | .eof => inBody b token

/-- The characters found in a table stay there if they are all white space. -/
def flushTableText (b : Builder) : Builder :=
  let t := b.tableText
  let b := { b with tableText := [] }
  if t.isEmpty then b
  else if isBlank t then b.addText t
  else match fosterInBody b (.text t) with
    | .done b | .again _ b | .raw _ b => b

def inTableText (b : Builder) : Token → Outcome
  | .text t => .done { b with tableText := b.tableText ++ t }
  | .nul => .done b
  | _ => .again b.returnMode (flushTableText b)

def inCaption (b : Builder) (token : Token) : Outcome :=
  let close (next : Builder → Outcome) : Outcome :=
    if b.hasInScope boundsTableScope ["caption"] then next (closeWithFormatting b "caption")
    else .done b
  match token with
  | .start name _ _ =>
    if named tablePartNames name then close fun b => .again .inTable b else inBody b token
  | .stop name =>
    if named ["table"] name then close fun b => .again .inTable b
    else if named ["caption"] name then close fun b => .done { b with mode := .inTable }
    else if named ("body" :: "html" :: tablePartNames) name then .done b
    else inBody b token
  | _ => inBody b token

def inColumnGroup (b : Builder) (token : Token) : Outcome :=
  let otherwise : Outcome := if b.currentIs ["colgroup"] then .again .inTable b.pop else .done b
  match token with
  | .doctype _ => .done b
  | .comment => .done (b.addComment ((b.current?).getD 0))
  | .text t => if isBlank t then .done (b.addText t) else otherwise
  | .start name attributes _ =>
    if named ["html"] name then mergeHtml b attributes
    else if named ["col"] name then .done (b.insertEmpty { name, attributes })
    else if named ["template"] name then startInHead b { name, attributes }
    else otherwise
  | .stop name =>
    if named ["colgroup"] name then
      .done (if b.currentIs ["colgroup"] then { b.pop with mode := .inTable } else b)
    else if named ["col"] name then .done b
    else if named ["template"] name then .done (closeTemplate b)
    else otherwise
  | .eof => inBody b token
  | .nul => otherwise

def inTableBody (b : Builder) (token : Token) : Outcome :=
  let closeBody : Outcome :=
    if b.hasInScope boundsTableScope ["table", "tbody", "tfoot"] then
      .again .inTable (clearToTableBody b).pop
    else .done b
  match token with
  | .start name attributes _ =>
    if named ["tr"] name then
      .done { (clearToTableBody b).insertOpen { name, attributes } with mode := .inRow }
    else if named ["th", "td"] name then .again .inRow ((clearToTableBody b).insertNamed "tr")
    else if named ["caption", "col", "colgroup", "tbody", "tfoot", "thead"] name then closeBody
    else inTable b token
  | .stop name =>
    if named ["tbody", "tfoot", "thead"] name then
      if b.hasInScope boundsTableScope [String.ofList name] then
        .done { (clearToTableBody b).pop with mode := .inTable }
      else .done b
    else if named ["table"] name then closeBody
    else if named ["body", "caption", "col", "colgroup", "html", "td", "th", "tr"] name then .done b
    else inTable b token
  | _ => inTable b token

def inRow (b : Builder) (token : Token) : Outcome :=
  let closeRow : Outcome :=
    if b.hasInScope boundsTableScope ["tr"] then .again .inTableBody (clearToRow b).pop else .done b
  match token with
  | .start name attributes _ =>
    if named ["th", "td"] name then
      .done { ((clearToRow b).insertOpen { name, attributes }).addMarker with mode := .inCell }
    else if named ["caption", "col", "colgroup", "tbody", "tfoot", "thead", "tr"] name then closeRow
    else inTable b token
  | .stop name =>
    if named ["tr"] name then
      if b.hasInScope boundsTableScope ["tr"] then
        .done { (clearToRow b).pop with mode := .inTableBody }
      else .done b
    else if named ["table"] name then closeRow
    else if named ["tbody", "tfoot", "thead"] name then
      if b.hasInScope boundsTableScope [String.ofList name] then closeRow else .done b
    else if named ["body", "caption", "col", "colgroup", "html", "td", "th"] name then .done b
    else inTable b token
  | _ => inTable b token

def closeCell (b : Builder) : Builder :=
  ((b.closeImplied impliedEnds []).popThrough ["td", "th"]).clearToMarker

def inCell (b : Builder) (token : Token) : Outcome :=
  match token with
  | .start name _ _ =>
    if named tablePartNames name then
      if b.hasInScope boundsTableScope ["td", "th"] then .again .inRow (closeCell b) else .done b
    else inBody b token
  | .stop name =>
    let here := String.ofList name
    if named ["td", "th"] name then
      if b.hasInScope boundsTableScope [here] then
        .done { closeWithFormatting b here with mode := .inRow }
      else .done b
    else if named ["body", "caption", "col", "colgroup", "html"] name then .done b
    else if named ["table", "tbody", "tfoot", "thead", "tr"] name then
      if b.hasInScope boundsTableScope [here] then .again .inRow (closeCell b) else .done b
    else inBody b token
  | _ => inBody b token

/-! ### Choices, templates and frames -/

def inSelect (b : Builder) (token : Token) : Outcome :=
  let dropOption (b : Builder) : Builder := if b.currentIs ["option"] then b.pop else b
  let dropGroup (b : Builder) : Builder := if b.currentIs ["optgroup"] then b.pop else b
  let closeSelect : Builder := (b.popThrough ["select"]).resetMode
  let inScope := b.hasInScope boundsSelectScope ["select"]
  match token with
  | .doctype _ | .nul => .done b
  | .comment => .done (b.addComment ((b.current?).getD 0))
  | .text t => .done (b.addText t)
  | .start name attributes _ =>
    let tag : Tag := { name, attributes }
    if named ["html"] name then mergeHtml b attributes
    else if named ["option"] name then .done ((dropOption b).insertOpen tag)
    else if named ["optgroup"] name then .done ((dropGroup (dropOption b)).insertOpen tag)
    else if named ["hr"] name then .done ((dropGroup (dropOption b)).insertEmpty tag)
    else if named ["select"] name then .done (if inScope then closeSelect else b)
    else if named ["input", "keygen", "textarea"] name then
      if inScope then .again closeSelect.mode closeSelect else .done b
    else if named ["script", "template"] name then startInHead b tag
    else .done b
  | .stop name =>
    if named ["optgroup"] name then
      match b.opened with
      | _ :: outer :: _ =>
        let b := if isHtml ["optgroup"] (b.tagOf outer) then dropOption b else b
        .done (dropGroup b)
      | _ => .done (dropGroup b)
    else if named ["option"] name then .done (dropOption b)
    else if named ["select"] name then .done (if inScope then closeSelect else b)
    else if named ["template"] name then .done (closeTemplate b)
    else .done b
  | .eof => inBody b token

def inSelectInTable (b : Builder) (token : Token) : Outcome :=
  let names := ["caption", "table", "tbody", "tfoot", "thead", "tr", "td", "th"]
  let closeSelect : Builder := (b.popThrough ["select"]).resetMode
  match token with
  | .start name _ _ =>
    if named names name then .again closeSelect.mode closeSelect else inSelect b token
  | .stop name =>
    if named names name then
      if b.hasInScope boundsTableScope [String.ofList name] then .again closeSelect.mode closeSelect
      else .done b
    else inSelect b token
  | _ => inSelect b token

def inTemplate (b : Builder) (token : Token) : Outcome :=
  let switch (mode : Mode) : Outcome :=
    .again mode { b with templateModes := mode :: b.templateModes.drop 1 }
  match token with
  | .start name attributes _ =>
    if named headNames name then startInHead b { name, attributes }
    else if named ["caption", "colgroup", "tbody", "tfoot", "thead"] name then switch .inTable
    else if named ["col"] name then switch .inColumnGroup
    else if named ["tr"] name then switch .inTableBody
    else if named ["td", "th"] name then switch .inRow
    else switch .inBody
  | .stop name => if named ["template"] name then .done (closeTemplate b) else .done b
  | .eof =>
    if b.isOpen ["template"] then
      let b := (b.popThrough ["template"]).clearToMarker
      let b := { b with templateModes := b.templateModes.drop 1 }.resetMode
      .again b.mode b
    else .done b
  | _ => inBody b token

def afterBody (b : Builder) (token : Token) : Outcome :=
  let otherwise : Outcome := .again .inBody b
  match token with
  | .doctype _ => .done b
  | .comment => .done (b.addComment ((b.opened.getLast?).getD 0))
  | .text t => if isBlank t then inBody b token else otherwise
  | .start name attributes _ => if named ["html"] name then mergeHtml b attributes else otherwise
  | .stop name => if named ["html"] name then .done { b with mode := .afterAfterBody } else otherwise
  | .eof => .done b
  | .nul => otherwise

def inFrameset (b : Builder) (token : Token) : Outcome :=
  match token with
  | .comment => .done (b.addComment ((b.current?).getD 0))
  | .text t => .done (if isBlank t then b.addText t else b)
  | .start name attributes _ =>
    let tag : Tag := { name, attributes }
    if named ["html"] name then mergeHtml b attributes
    else if named ["frameset"] name then .done (b.insertOpen tag)
    else if named ["frame"] name then .done (b.insertEmpty tag)
    else if named ["noframes"] name then startInHead b tag
    else .done b
  | .stop name =>
    if named ["frameset"] name && b.opened.length != 1 then
      let b := b.pop
      .done (if b.currentIs ["frameset"] then b else { b with mode := .afterFrameset })
    else .done b
  | _ => .done b

def afterFrameset (b : Builder) (token : Token) : Outcome :=
  match token with
  | .comment => .done (b.addComment ((b.current?).getD 0))
  | .text t => .done (if isBlank t then b.addText t else b)
  | .start name attributes _ =>
    if named ["html"] name then mergeHtml b attributes
    else if named ["noframes"] name then startInHead b { name, attributes }
    else .done b
  | .stop name =>
    .done (if named ["html"] name then { b with mode := .afterAfterFrameset } else b)
  | _ => .done b

def afterAfterBody (b : Builder) (token : Token) : Outcome :=
  let otherwise : Outcome := .again .inBody b
  match token with
  | .doctype _ => .done b
  | .comment => .done (b.addComment 0)
  | .text t => if isBlank t then inBody b token else otherwise
  | .start name attributes _ => if named ["html"] name then mergeHtml b attributes else otherwise
  | .eof => .done b
  | _ => otherwise

def afterAfterFrameset (b : Builder) (token : Token) : Outcome :=
  match token with
  | .comment => .done (b.addComment 0)
  | .text t => if isBlank t then inBody b token else .done b
  | .start name attributes _ =>
    if named ["html"] name then mergeHtml b attributes
    else if named ["noframes"] name then startInHead b { name, attributes }
    else .done b
  | _ => .done b

/-- What a token does in the mode at hand. -/
def step (b : Builder) (token : Token) : Outcome :=
  match b.mode with
  | .initial => initial b token
  | .beforeHtml => beforeHtml b token
  | .beforeHead => beforeHead b token
  | .inHead => inHead b token
  | .afterHead => afterHead b token
  | .inBody => inBody b token
  | .text => inText b token
  | .inTable => inTable b token
  | .inTableText => inTableText b token
  | .inCaption => inCaption b token
  | .inColumnGroup => inColumnGroup b token
  | .inTableBody => inTableBody b token
  | .inRow => inRow b token
  | .inCell => inCell b token
  | .inSelect => inSelect b token
  | .inSelectInTable => inSelectInTable b token
  | .inTemplate => inTemplate b token
  | .afterBody => afterBody b token
  | .inFrameset => inFrameset b token
  | .afterFrameset => afterFrameset b token
  | .afterAfterBody => afterAfterBody b token
  | .afterAfterFrameset => afterAfterFrameset b token

/-! ### Other vocabularies -/

/-- Start tags that end the content of another vocabulary. -/
def breakoutNames : List String :=
  ["b", "big", "blockquote", "body", "br", "center", "code", "dd", "div", "dl", "dt", "em", "embed",
    "h1", "h2", "h3", "h4", "h5", "h6", "head", "hr", "i", "img", "li", "listing", "menu", "meta",
    "nobr", "ol", "p", "pre", "ruby", "s", "small", "span", "strong", "strike", "sub", "sup",
    "table", "tt", "u", "ul", "var"]

def breaksOut (name : Text) (attributes : List Attribute) : Bool :=
  named breakoutNames name ||
    (named ["font"] name && attributes.any fun a => named ["color", "face", "size"] a.name)

/-- The token belongs to the content of another vocabulary. -/
def isForeign (b : Builder) (token : Token) : Bool :=
  match b.current?.map b.tagOf with
  | none => false
  | some tag =>
    if tag.vocabulary = .html then false
    else
      let annotates := tag.vocabulary = .mathml && named ["annotation-xml"] tag.name
      match token with
      | .eof => false
      | .text _ | .nul => !(isMathText tag || holdsHtml tag)
      | .start name _ _ =>
        !((isMathText tag && !named ["mglyph", "malignmark"] name) || holdsHtml tag ||
          (annotates && named ["svg"] name))
      | _ => true

/-- Closes elements of other vocabularies up to one whose content is HTML. -/
def leaveForeign (b : Builder) : Builder :=
  b.popTo fun tag => tag.vocabulary = .html || isMathText tag || holdsHtml tag

/-- Closes the element of another vocabulary that an end tag names; below an element of HTML, the
tag is read by the rules of the mode. -/
def stopForeign (b : Builder) (name : Text) (first : Bool) : List Nat → Outcome
  | [] => .done b
  | [_] => .done b
  | n :: outer =>
    let tag := b.tagOf n
    if !first && tag.vocabulary = .html then step b (.stop name)
    else if Text.eqIgnoreCase tag.name name then .done { b with opened := outer }
    else stopForeign b name false outer

def foreignStep (b : Builder) (token : Token) : Outcome :=
  match token with
  | .nul => .done (b.addText [replacement])
  | .text t => .done { b.addText t with framesetOk := b.framesetOk && isBlank t }
  | .comment => .done (b.addComment ((b.current?).getD 0))
  | .start name attributes selfClosing =>
    if breaksOut name attributes then step (leaveForeign b) token
    else
      let vocabulary := (b.current?.map fun n => (b.tagOf n).vocabulary).getD .html
      .done (openForeign b vocabulary { name, attributes } selfClosing)
  | .stop name =>
    if named ["br", "p"] name then step (leaveForeign b) token
    else stopForeign b name true b.opened
  | _ => .done b

end Rules
end PageRules.Html
