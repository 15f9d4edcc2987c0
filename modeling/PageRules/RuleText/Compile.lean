import PageRules.RuleText.Issue
import PageRules.RuleText.Line
import PageRules.RuleText.Normal
import PageRules.Text.Letter

/-! Compiling a rule text. Nothing in a text makes it fail: what cannot be understood is skipped
and noted, and everything else is kept. -/

namespace PageRules.RuleText

/-- The key of an option, in lower case, and what is written for it. -/
def optionParts (part : Text) : Text × Option Text :=
  match Text.splitOnce (· == ':') part with
  | some (key, written) => (Text.lower (Text.trim key), some written)
  | none => (Text.lower part, none)

/-- Sets a key to what is written for it; a key alone is a flag. -/
def setOption (start : Nat) (options : OptionSet) (key : Text) (written? : Option Text) :
    Noted OptionSet :=
  if key = [] then pure options
  else if key = OptionKey.value then do
    Noted.note start .reservedOption
    return options
  else match written? with
    | none => pure (options.insert key (.flag true))
    | some written =>
      match OptionValue.read key written with
      | .ok value => pure (options.insert key value)
      | .error e => do
        Noted.note start (.notInteger e)
        return options

/-- The option that a part of an option group sets. -/
def addOption (start : Nat) (options : OptionSet) (part : Text) : Noted OptionSet :=
  setOption start options (optionParts (Text.trim part)).1 (optionParts (Text.trim part)).2

/-- The options of bracket groups; commas separate the options of a group. -/
def readOptions (start : Nat) (groups : List Text) : Noted OptionSet :=
  (groups.flatMap (Text.splitOn (· == ','))).foldlM (addOption start) .empty

def trailerOptions (b : Block) : Noted OptionSet :=
  readOptions b.start (optionGroups b.trailer.chars)

def reportMalformed (k : Keyword) (malformed : List Malformed) : Noted Unit :=
  .ofNotes (malformed.map fun m => ⟨m.start, .malformed k m.defect⟩)

/-- The selector that says that a field has no value. -/
def nullSelector : Text := "null".toList

/-- The field that a line defines, and what follows its colon. -/
def fieldOf? (line : Text) : Option (Field × Text) := do
  let (name, definition) ← Text.splitOnce (· == ':') line
  let f ← Field.ofName? (Text.trim name)
  return (f, definition)

/-- A field definition on one line. -/
def defineField (start : Nat) (t : Template) (f : Field) (definition : Text) : Noted Template := do
  let (selector, groups) := splitField definition
  let options ← readOptions start groups
  if selector = nullSelector then return t.addFieldOptions f options
  else if selector = [] then
    Noted.note start (.noFieldSelector f)
    return t.addFieldOptions f options
  else return (t.addFieldSelector f selector).addFieldOptions f options

/-- A line of a body. Blank lines and lines that begin with `#` say nothing. -/
def addLine (t : Template) (line : Fragment) : Noted Template :=
  let text := line.text
  if text = [] ∨ text.head? = some '#' then pure t
  else match fieldOf? text with
    | some (f, definition) => defineField line.start t f definition
    | none => do
      Noted.note line.start (.unknownLine text)
      return t

def addLines (t : Template) (lines : List Fragment) : Noted Template := lines.foldlM addLine t

def Block.hole (b : Block) : Hole := ⟨b.start, b.stop⟩

/-- The name that templates of items have. -/
def itemsName : Text := "items".toList

/-- The template that an items block defines. -/
def itemTemplate? (b : Block) : Noted (Option Template) := do
  if b.header.text = [] then
    Noted.note b.start .noItemsSelector
    return none
  else
    let options ← trailerOptions b
    let nested := (scanBlocks .items b.body).blocks
    Noted.ofNotes (nested.map fun inner => ⟨inner.start, .nestedItems⟩)
    let t := Template.addSectionOptions { name := itemsName, selector := b.header.text } options
    let t ← addLines t (linesExcluding b.body (nested.map Block.hole))
    return some t

/-- The template of the first items block that has a selector. -/
def firstItems (found : Option Template) : List Block → Noted (Option Template)
  | [] => pure found
  | b :: rest =>
    match found with
    | some t => do
      Noted.note b.start .duplicateItems
      firstItems (some t) rest
    | none => do firstItems (← itemTemplate? b) rest

/-- A malformed items block hides the rest of its line. -/
def Malformed.hole (body : Fragment) (m : Malformed) : Hole :=
  ⟨m.start, m.start + ((body.chars.drop (m.start - body.start)).takeWhile (· != '\n')).length⟩

def sectionBody (t : Template) (body : Fragment) : Noted Rule := do
  let scan := scanBlocks .items body
  reportMalformed .items scan.malformed
  let items ← firstItems none scan.blocks
  let holes := scan.blocks.map Block.hole ++ scan.malformed.map (Malformed.hole body)
  let t ← addLines t (linesExcluding body holes)
  return { toTemplate := t, items }

def isNameChar (c : Char) : Bool := Text.isAlphanumeric c || c == '_' || c == '-'

/-- The name and the selector that the header of a section gives. -/
def sectionHead (header : Text) : Text × Text :=
  match Text.splitOnce Text.isBlank header with
  | some (name, selector) => (name, Text.trim selector)
  | none => (header, [])

def section? (b : Block) : Noted (Option Rule) := do
  let (name, selector) := sectionHead b.header.text
  if name = [] ∨ !name.all isNameChar then
    Noted.note b.start (.invalidName name)
    return none
  else if selector = [] then
    Noted.note b.start (.noSectionSelector name)
    return none
  else
    let options ← trailerOptions b
    let rule ← sectionBody (Template.addSectionOptions { name, selector } options) b.body
    return some rule

/-- The rules of the sections in a fragment. -/
def sections (f : Fragment) : Noted (List Rule) := do
  let scan := scanBlocks .section f
  reportMalformed .section scan.malformed
  Noted.collect section? scan.blocks

/-- The scope of a path block, where the scopes before it are known. A block without a section
makes no scope. -/
def scope? (scopes : List PathScope) (b : Block) : Noted (Option PathScope) := do
  let pattern := b.header.text
  if pattern = [] then
    Noted.note b.start .noPattern
    return none
  else if scopes.any (·.pattern == pattern) then
    Noted.note b.start (.duplicatePath pattern)
    return none
  else
    let rules ← sections b.body
    if rules.isEmpty then return none
    else match PathScope.of pattern rules with
      | .ok scope => return some scope
      | .error e =>
        Noted.note b.start (.invalidPattern pattern e)
        return none

def addScope (scopes : List PathScope) (b : Block) : Noted (List PathScope) := do
  return scopes ++ (← scope? scopes b).toList

/-- The scopes of a text. Sections stand in path blocks or, where there are none, for every path. -/
def scopes (f : Fragment) : Noted (List PathScope) := do
  let paths := scanBlocks .path f
  reportMalformed .path paths.malformed
  if paths.blocks.isEmpty then return [.catchAll (← sections f)]
  else
    Noted.ofNotes ((scanBlocks .section f).blocks.map fun b => ⟨b.start, .straySection⟩)
    paths.blocks.foldlM addScope []

/-- The page type that a line declares. -/
def pageTypeOf? (line : Text) : Option Text := do
  let rest ← Keyword.afterWord? "page-type".toList (Text.trim line)
  match Text.trimStart rest with
  | ':' :: value => (Text.words value).head?
  | _ => none

/-- The first page type that a line declares. -/
def pageType? (text : Text) : Option Text := (Text.lines text).findSome? pageTypeOf?

/-- The number of the line that holds a position. -/
def lineOf (text : Text) (pos : Nat) : Nat := (text.take pos).count '\n' + 1

structure Compilation where
  pageType : Option Text
  scopes : List PathScope
  diagnostics : List Diagnostic
  deriving DecidableEq

namespace Compilation

def select (c : Compilation) (path : Text) : List Rule := PathScope.select c.scopes path

/-- The scope of a pattern. -/
def scope? (c : Compilation) (pattern : Text) : Option PathScope :=
  c.scopes.find? (·.pattern == pattern)

end Compilation

def compileNormal (n : Normal) : Compilation :=
  let made := scopes ⟨0, n.text⟩
  { pageType := pageType? n.text
    scopes := made.value
    diagnostics :=
      (n.unclosed.map fun line => ⟨line, .unclosedComment⟩).toList ++
        made.notes.map fun note => ⟨lineOf n.text note.start, note.issue⟩ }

/-- The scopes, the page type and the diagnostics of a rule text. -/
def compile (raw : Text) : Compilation := compileNormal (normalize raw)

end PageRules.RuleText
