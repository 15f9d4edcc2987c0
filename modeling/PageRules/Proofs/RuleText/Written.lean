import Mathlib
import PageRules.Proofs.Text.Trim
import PageRules.RuleText.Compile

/-!
# Rules written out

The written form of path scopes: one line that declares the page type, then a path block for each
scope. A block holds its sections, a section the definitions of its fields and then the block of its
items. `RuleText.Writable` collects what rules must meet to have a written form; nothing in the
language can quote a comma, a brace, a bracket or a line break.
-/

namespace PageRules

/-! ## Texts that the language passes through -/

namespace Text

/-- The two characters stand side by side somewhere in the text. -/
def HasPair (a b : Char) (t : Text) : Prop := [a, b] <:+: t

instance (a b : Char) (t : Text) : Decidable (HasPair a b t) :=
  inferInstanceAs (Decidable ([a, b] <:+: t))

/-- The text has none of the characters and opens neither a comment nor a reference. -/
@[mk_iff] structure Free (cs : List Char) (t : Text) : Prop where
  not_mem : ∀ c ∈ cs, c ∉ t
  no_comment : ¬ HasPair '/' '*' t
  no_reference : ¬ HasPair '&' '#' t

-- Characters are also decidable as a finite type, which would go through all of them.
instance (cs : List Char) (t : Text) : Decidable (Free cs t) :=
  have : Decidable (∀ c ∈ cs, c ∉ t) := List.decidableBAll _ cs
  decidable_of_iff' _ (free_iff cs t)

/-- What a line may hold. -/
abbrev Clean : Text → Prop := Free ['\n', '\r']

/-- What may stand on a line outside the marks of a block. -/
abbrev Plain : Text → Prop := Free ['\n', '\r', '\x7b', '\x7d']

/-- What an option may hold; commas and brackets end it. -/
abbrev PlainOption : Text → Prop := Free ['\n', '\r', '\x7b', '\x7d', ',', '[', ']']

/-- Each line ends in a line break. -/
def unlines (lines : List Text) : Text := lines.flatMap (· ++ ['\n'])

end Text

/-- A keyword with its colon stands at the front, where `bounded` allows one there, or behind a
character that bounds keywords. -/
def RuleText.Keyword.occurs (k : Keyword) (bounded : Bool) : Text → Bool
  | [] => false
  | c :: rest => (bounded && (k.after? (c :: rest)).isSome) || k.occurs (boundsKeyword c) rest

/-! ## Options -/

namespace OptionValue

/-- The text itself where reading gives it back, else the text in quotes. -/
def quoted (t : Text) : Text := if unquote (Text.trim t) = t then t else '"' :: t ++ ['"']

/-- What is written for a value; a flag has its key alone. -/
def written? : OptionValue → Option Text
  | .text t => some (quoted t)
  | .integer n => some (Text.ofInt n)
  | .flag _ => none
  | .list items => some (quoted (Text.join ['|'] items))

/-- The texts inside a value. -/
def texts : OptionValue → List Text
  | .text t => [t]
  | .list items => items
  | .integer _ | .flag _ => []

/-- A key has values of one kind, or is a flag. -/
def Suits (key : Text) : OptionValue → Prop
  | .flag b => b = true
  | .integer n => (key = OptionKey.limit ∨ key = OptionKey.index) ∧
      -0x8000000000000000 ≤ n ∧ n < 0x8000000000000000
  | .list items => key = OptionKey.transform ∧
      ∀ t ∈ items, t ≠ [] ∧ Text.Trimmed t ∧ '|' ∉ t
  | .text _ => key ≠ OptionKey.limit ∧ key ≠ OptionKey.index ∧ key ≠ OptionKey.transform

instance (key : Text) (v : OptionValue) : Decidable (v.Suits key) :=
  match v with
  | .flag b => inferInstanceAs (Decidable (b = true))
  | .integer n => inferInstanceAs (Decidable ((key = OptionKey.limit ∨ key = OptionKey.index) ∧
      -0x8000000000000000 ≤ n ∧ n < 0x8000000000000000))
  | .list items => inferInstanceAs (Decidable (key = OptionKey.transform ∧
      ∀ t ∈ items, t ≠ [] ∧ Text.Trimmed t ∧ '|' ∉ t))
  | .text _ => inferInstanceAs (Decidable (key ≠ OptionKey.limit ∧ key ≠ OptionKey.index ∧
      key ≠ OptionKey.transform))

end OptionValue

/-- A character of the key of an option. -/
def isKeyChar (c : Char) : Bool := c.isLower || c.isDigit || c == '_' || c == '-'

namespace OptionSet

def writeEntry (e : Text × OptionValue) : Text :=
  e.1 ++ match e.2.written? with
    | some t => ':' :: t
    | none => []

/-- All options, with commas between them. -/
def inside (o : OptionSet) : Text := Text.join [','] (o.entries.map writeEntry)

/-- All options in one bracket group; nothing where there are none. -/
def write (o : OptionSet) : Text := if o.entries = [] then [] else ' ' :: '[' :: o.inside ++ [']']

@[mk_iff] structure EntryWritable (e : Text × OptionValue) : Prop where
  key_ne_nil : e.1 ≠ []
  key_chars : e.1.all isKeyChar = true
  key_ne_value : e.1 ≠ OptionKey.value
  suits : e.2.Suits e.1
  texts : ∀ t ∈ e.2.texts, Text.PlainOption t

instance (e : Text × OptionValue) : Decidable (EntryWritable e) :=
  decidable_of_iff' _ (entryWritable_iff e)

def Writable (o : OptionSet) : Prop := ∀ e ∈ o.entries, EntryWritable e

instance (o : OptionSet) : Decidable (Writable o) :=
  inferInstanceAs (Decidable (∀ e ∈ o.entries, EntryWritable e))

end OptionSet

/-! ## Rules -/

namespace RuleText

/-- The lines of a block: its header, what it holds, and the closing brace with the options. -/
def blockLines (indent : Text) (k : Keyword) (header : Text) (inner : List Text) (options : Text) :
    List Text :=
  (indent ++ k.name ++ ':' :: ' ' :: header ++ [' ', '\x7b']) :: inner ++
    [indent ++ '\x7d' :: options]

/-- Every opening bracket follows what is no white space, so that it belongs to a selector;
`touched` says that such a character stands before the text. -/
def bracketsTouch (touched : Bool) : Text → Bool
  | [] => true
  | c :: rest => (c != '[' || touched) && bracketsTouch (!Text.isSpace c) rest

/-- The definition of a field; one without a selector is written `null`. -/
def writeField (f : Field) (selector : Option Text) (o : OptionSet) : Text :=
  f.name ++ ':' :: ' ' :: selector.getD nullSelector ++ o.write

/-- What holds of the definition of a field that can be written on a line. -/
@[mk_iff] structure FieldWritable (selector : Option Text) (o : OptionSet) : Prop where
  selector_plain : ∀ s ∈ selector, s.Plain ∧ s ≠ [] ∧ Text.Trimmed s ∧ s ≠ nullSelector
  selector_brackets : ∀ s ∈ selector, bracketsTouch false s = true
  selector_items : ∀ s ∈ selector, Keyword.items.occurs true s = false
  options : o.Writable
  options_items : ∀ e ∈ o.entries, ∀ t ∈ e.2.texts, Keyword.items.occurs true t = false

instance (selector : Option Text) (o : OptionSet) : Decidable (FieldWritable selector o) :=
  decidable_of_iff' _ (fieldWritable_iff selector o)

end RuleText

namespace Template

open RuleText

/-- The definitions of the fields, one on a line. -/
def fieldLines (t : Template) (indent : Text) : List Text :=
  t.fieldOptions.entries.map fun (f, o) => indent ++ writeField f (t.fieldSelectors.get? f) o

@[mk_iff] structure Writable (t : Template) : Prop where
  selector_plain : t.selector.Plain
  selector_ne_nil : t.selector ≠ []
  selector_trimmed : Text.Trimmed t.selector
  /-- Every field with a selector is defined, in the order of the definitions. -/
  fields_order : t.fieldSelectors.keys.Sublist t.fieldOptions.keys
  fields : ∀ e ∈ t.fieldOptions.entries, FieldWritable (t.fieldSelectors.get? e.1) e.2
  section_options : t.sectionOptions.Writable

instance (t : Template) : Decidable (Writable t) := decidable_of_iff' _ (writable_iff t)

/-- The block of the items of a section. -/
def itemLines (t : Template) : List Text :=
  blockLines "    ".toList .items t.selector (t.fieldLines "      ".toList) t.sectionOptions.write

end Template

namespace Rule

/-- The block of a section. -/
def lines (r : Rule) : List Text :=
  RuleText.blockLines "  ".toList .section (r.name ++ ' ' :: r.selector)
    (r.fieldLines "    ".toList ++ r.items.elim [] Template.itemLines) r.sectionOptions.write

@[mk_iff] structure Writable (r : Rule) : Prop where
  name_ne_nil : r.name ≠ []
  name_chars : r.name.all RuleText.isNameChar
  template : r.toTemplate.Writable
  items : ∀ t ∈ r.items, t.name = RuleText.itemsName ∧ t.Writable

instance (r : Rule) : Decidable (Writable r) := decidable_of_iff' _ (writable_iff r)

end Rule

namespace PathScope

/-- The block of a path. -/
def lines (s : PathScope) : List Text :=
  RuleText.blockLines [] .path s.pattern (s.rules.flatMap Rule.lines) []

@[mk_iff] structure Writable (s : PathScope) : Prop where
  pattern_slash : ['/'] <+: s.pattern
  pattern_chars : ∀ c ∈ s.pattern, Text.isBlank c = false ∧ c ≠ '\x7b' ∧ c ≠ '\x7d' ∧ c ≠ ';'
  pattern_reference : ¬ Text.HasPair '&' '#' s.pattern
  rules_ne_nil : s.rules ≠ []
  rules : ∀ r ∈ s.rules, r.Writable

instance (s : PathScope) : Decidable (Writable s) :=
  have : Decidable (∀ c ∈ s.pattern, Text.isBlank c = false ∧ c ≠ '\x7b' ∧ c ≠ '\x7d' ∧ c ≠ ';') :=
    List.decidableBAll _ s.pattern
  decidable_of_iff' _ (writable_iff s)

end PathScope

namespace RuleText

/-- A page type and scopes as a rule text. -/
def write (pageType : Text) (scopes : List PathScope) : Text :=
  Text.unlines (("page-type: ".toList ++ pageType) :: scopes.flatMap PathScope.lines)

/-- What holds of a page type and scopes that can be written out. -/
@[mk_iff] structure Writable (pageType : Text) (scopes : List PathScope) : Prop where
  page_type_ne_nil : pageType ≠ []
  page_type_chars : pageType.all isNameChar
  writable : ∀ s ∈ scopes, s.Writable
  patterns_nodup : (scopes.map (·.pattern)).Nodup

instance (pageType : Text) (scopes : List PathScope) : Decidable (Writable pageType scopes) :=
  decidable_of_iff' _ (writable_iff pageType scopes)

end RuleText
end PageRules
