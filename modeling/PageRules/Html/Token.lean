import PageRules.Html.Doctype
import PageRules.Html.Node
import PageRules.Html.Reference

/-! The tokens of an HTML text: tags, comments and runs of characters. -/

namespace PageRules.Html

inductive Token where
  | doctype (d : Doctype)
  | start (name : Text) (attributes : List Attribute) (selfClosing : Bool)
  | stop (name : Text)
  | comment
  | text (t : Text)
  | nul
  | eof

/-- How the text inside an element without markup is read. -/
inductive RawKind where
  /-- References are replaced. -/
  | escapable
  | raw
  | script
  /-- Nothing ends the text. -/
  | plain
  deriving DecidableEq

/-- Drops a byte order mark at the front. -/
def dropMark : Text → Text
  | c :: rest => if c.toNat = 0xFEFF then rest else c :: rest
  | [] => []

theorem length_dropMark_le (t : Text) : (dropMark t).length ≤ t.length := by
  unfold dropMark
  split
  · split <;> simp
  · simp

/-- Line breaks as line feeds, without a byte order mark at the front. -/
def cleanInput (t : Text) : Text := unify (dropMark t)
where
  unify : Text → Text
    | '\r' :: '\n' :: rest => '\n' :: unify rest
    | '\r' :: rest => '\n' :: unify rest
    | c :: rest => c :: unify rest
    | [] => []

def isNul (c : Char) : Bool := c.toNat == 0

def replaceNul (t : Text) : Text := t.map fun c => if isNul c then replacement else c

/-! ### Tags -/

def endsName (c : Char) : Bool := Text.isSpace c || c == '/' || c == '>'

def endsAttributeName (c : Char) : Bool := endsName c || c == '='

def skip (t : Text) : Text := t.dropWhile Text.isSpace

theorem length_skip_le (t : Text) : (skip t).length ≤ t.length := Text.length_dropWhile_le _ t

/-- The value after an equals sign, and the text after it. There is none where a quote is not
closed. -/
def attributeValue? (t : Text) : Option (Text × Text) :=
  match skip t with
  | '"' :: rest => Text.splitOnce (· == '"') rest
  | '\'' :: rest => Text.splitOnce (· == '\'') rest
  | rest =>
    let isInside (c : Char) : Bool := !Text.isSpace c && c != '>'
    some (rest.takeWhile isInside, rest.dropWhile isInside)

/-- The value of an attribute after its name, empty where there is no equals sign, and the text
after it. -/
def valuePart? (t : Text) : Option (Text × Text) :=
  match skip t with
  | '=' :: rest => attributeValue? rest
  | rest => some ([], rest)

theorem length_attributeValue? {t value rest : Text} (h : attributeValue? t = some (value, rest)) :
    rest.length ≤ t.length := by
  have hs := length_skip_le t
  unfold attributeValue? at h
  split at h
  · have := Text.length_splitOnce h; simp_all; omega
  · have := Text.length_splitOnce h; simp_all; omega
  · cases h
    exact Nat.le_trans (Text.length_dropWhile_le _ _) hs

theorem length_valuePart? {t value rest : Text} (h : valuePart? t = some (value, rest)) :
    rest.length ≤ t.length := by
  have hs := length_skip_le t
  unfold valuePart? at h
  split at h
  · have := length_attributeValue? h; simp_all; omega
  · cases h
    exact hs

/-- What follows the name of a tag: its attributes, whether it closes itself, and the text after
it. There is none where the text ends inside the tag. -/
def tagRest? (t : Text) : Option (List Attribute × Bool × Text) :=
  match _h : skip t with
  | [] => none
  | '>' :: rest => some ([], false, rest)
  | '/' :: '>' :: rest => some ([], true, rest)
  | '/' :: rest => tagRest? rest
  | c :: rest =>
    match _hv : valuePart? (rest.dropWhile (!endsAttributeName ·)) with
    | none => none
    | some (value, after) =>
      let name := Text.lower (c :: rest.takeWhile (!endsAttributeName ·))
      (tagRest? after).map fun (attributes, selfClosing, after) =>
        (⟨replaceNul name, replaceNul (decodeReferences true value), false⟩ :: attributes,
          selfClosing, after)
termination_by t.length
decreasing_by
  · have := length_skip_le t
    simp only [‹skip t = _›, List.length_cons] at this
    omega
  · have := length_skip_le t
    have := length_valuePart? _hv
    have := Text.length_dropWhile_le (!endsAttributeName ·) rest
    simp_all; omega

theorem length_tagRest? {t after : Text} {attributes : List Attribute} {selfClosing : Bool}
    (h : tagRest? t = some (attributes, selfClosing, after)) : after.length ≤ t.length := by
  fun_induction tagRest? t generalizing attributes selfClosing after with
  | case1 => cases h
  | case2 t rest hs =>
    cases h
    have := length_skip_le t; simp_all; omega
  | case3 t rest hs =>
    cases h
    have := length_skip_le t; simp_all; omega
  | case4 t rest hs _ ih =>
    have := ih h
    have := length_skip_le t; simp_all; omega
  | case5 => cases h
  | case6 t c rest _ _ _ hs value after' hv =>
    rename_i ih
    obtain ⟨⟨as, sc, a⟩, hr, he⟩ := Option.map_eq_some_iff.mp h
    cases he
    have := ih hr
    have := length_valuePart? hv
    have := Text.length_dropWhile_le (!endsAttributeName ·) rest
    have := length_skip_le t
    simp_all; omega

/-- The attributes without repetitions; the first of a name stays. -/
def firstOfEach : List Attribute → List Attribute
  | [] => []
  | a :: rest => a :: (firstOfEach rest).filter (·.name != a.name)

/-- The token of a tag whose name is at the front, and the text after it. A tag in which the text
ends makes no token. -/
def tag (isStart : Bool) (t : Text) : Option Token × Text :=
  let name := replaceNul (Text.lower (t.takeWhile (!endsName ·)))
  match tagRest? (t.dropWhile (!endsName ·)) with
  | some (attributes, selfClosing, rest) =>
    (some (if isStart then .start name (firstOfEach attributes) selfClosing else .stop name), rest)
  | none => (none, [])

theorem length_tag (isStart : Bool) (t : Text) : (tag isStart t).2.length ≤ t.length := by
  unfold tag
  split
  · exact Nat.le_trans (length_tagRest? ‹_›) (Text.length_dropWhile_le _ _)
  · simp

/-! ### Markup declarations -/

/-- The text after the first `-->` or `--!>`. -/
def afterCommentEnd : Text → Text
  | [] => []
  | '-' :: '-' :: '>' :: rest => rest
  | '-' :: '-' :: '!' :: '>' :: rest => rest
  | _ :: rest => afterCommentEnd rest

/-- The text after a comment, where `<!--` was read. -/
def afterComment : Text → Text
  | '>' :: rest => rest
  | '-' :: '>' :: rest => rest
  | t => afterCommentEnd t

theorem length_afterCommentEnd (t : Text) : (afterCommentEnd t).length ≤ t.length := by
  fun_induction afterCommentEnd t <;> simp <;> omega

theorem length_afterComment (t : Text) : (afterComment t).length ≤ t.length := by
  unfold afterComment
  split
  · simp
  · simp; omega
  · exact length_afterCommentEnd _

/-- The text up to the next `>`, and the text after it. -/
def upToClose (t : Text) : Text × Text := (t.takeWhile (· != '>'), (t.dropWhile (· != '>')).drop 1)

theorem length_upToClose (t : Text) : (upToClose t).2.length ≤ t.length := by
  have := Text.length_dropWhile_le (· != '>') t
  simp [upToClose]; omega

/-- The text up to the end of a character section, and the text after it. -/
def upToSectionEnd : Text → Text × Text
  | [] => ([], [])
  | ']' :: ']' :: '>' :: rest => ([], rest)
  | c :: rest => (c :: (upToSectionEnd rest).1, (upToSectionEnd rest).2)

theorem length_upToSectionEnd (t : Text) : (upToSectionEnd t).2.length ≤ t.length := by
  fun_induction upToSectionEnd t <;> simp <;> omega

def textToken (t : Text) : Option Token := if t.isEmpty then none else some (.text t)

/-- The token after `<!`, and the text after it. Character sections stand only in `foreign`
vocabularies. -/
def declaration (foreign : Bool) (t : Text) : Option Token × Text :=
  match "--".toList.isPrefixOf? t with
  | some _ => (some .comment, afterComment (t.drop 2))
  | none =>
    match Doctype.afterWord? "doctype" t with
    | some _ =>
      let (inside, after) := upToClose (t.drop 7)
      let closed := (t.drop 7).any (· == '>')
      let d := Doctype.read inside
      (some (.doctype { d with wellFormed := d.wellFormed && closed }), after)
    | none =>
      if foreign && "[CDATA[".toList.isPrefixOf t then
        (textToken (upToSectionEnd (t.drop 7)).1, (upToSectionEnd (t.drop 7)).2)
      else (some .comment, (upToClose t).2)

theorem length_declaration (foreign : Bool) (t : Text) :
    (declaration foreign t).2.length ≤ t.length := by
  have hd (n : Nat) : (t.drop n).length ≤ t.length := by simp
  unfold declaration
  split
  · exact Nat.le_trans (length_afterComment _) (hd 2)
  · split
    · exact Nat.le_trans (length_upToClose _) (hd 7)
    · split
      · exact Nat.le_trans (length_upToSectionEnd _) (hd 7)
      · exact length_upToClose t

/-! ### Tokens -/

/-- The token after `<`, and the text after it. -/
def markup (foreign : Bool) (t : Text) : Option Token × Text :=
  match t with
  | '!' :: rest => declaration foreign rest
  | '?' :: rest => (some .comment, (upToClose rest).2)
  | '/' :: c :: rest =>
    if c.isAlpha then tag false (c :: rest)
    else if c == '>' then (none, rest)
    else (some .comment, (upToClose (c :: rest)).2)
  | ['/'] => (some (.text ['<', '/']), [])
  | c :: rest => if c.isAlpha then tag true (c :: rest) else (some (.text ['<']), c :: rest)
  | [] => (some (.text ['<']), [])

theorem length_markup (foreign : Bool) (t : Text) : (markup foreign t).2.length ≤ t.length := by
  unfold markup
  split
  · have := length_declaration foreign ‹_›; simp; omega
  · have := length_upToClose ‹_›; simp; omega
  · split
    · have := length_tag false (‹Char› :: ‹List Char›); simp_all; omega
    · split
      · simp; omega
      · have := length_upToClose (‹Char› :: ‹List Char›); simp_all; omega
  · simp
  · split
    · exact length_tag true _
    · simp
  · simp

/-- A run of characters ends here. -/
def endsRun (c : Char) : Bool := c == '<' || c == '&' || isNul c

/-- The token at the front of `c :: rest`, if there is one, and the text after it. -/
def next (foreign : Bool) (c : Char) (rest : Text) : Option Token × Text :=
  if c == '<' then markup foreign rest
  else if c == '&' then
    match reference? false rest with
    | some (value, after) => (some (.text value), after)
    | none => (some (.text [c]), rest)
  else if isNul c then (some .nul, rest)
  else (some (.text (c :: rest.takeWhile (!endsRun ·))), rest.dropWhile (!endsRun ·))

theorem length_next (foreign : Bool) (c : Char) (rest : Text) :
    (next foreign c rest).2.length ≤ rest.length := by
  unfold next
  split
  · exact length_markup foreign rest
  · split
    · split
      · exact length_reference? ‹_›
      · exact Nat.le_refl _
    · split
      · exact Nat.le_refl _
      · exact Text.length_dropWhile_le _ _

/-! ### Text without markup -/

/-- The tag that ends the element of a name is at the front. -/
def atTag (opening : String) (name t : Text) : Bool :=
  match opening.toList.isPrefixOf? t with
  | some rest =>
    Text.eqIgnoreCase (rest.take name.length) name &&
      match rest.drop name.length with
      | c :: _ => endsName c
      | [] => false
  | none => false

/-- The text up to the tag that ends the element of a name, and the text from that tag on. -/
def upToEndTag (name : Text) : Text → Text × Text
  | [] => ([], [])
  | c :: rest =>
    if atTag "</" name (c :: rest) then ([], c :: rest)
    else (c :: (upToEndTag name rest).1, (upToEndTag name rest).2)

/-- Whether a script is inside a comment, and whether a script is inside that comment. -/
inductive Escape where
  | none
  | single
  | double
  deriving DecidableEq

def scriptName : Text := "script".toList

/-- The text of a script up to its end tag, and the text from that tag on. Inside a comment, a
script tag hides the next end tag; `dashes` counts the dashes just before. -/
def upToScriptEnd (escape : Escape) (dashes : Nat) : Text → Text × Text
  | [] => ([], [])
  | c :: rest =>
    let step (escape : Escape) (dashes : Nat) : Text × Text :=
      let (inside, after) := upToScriptEnd escape dashes rest
      (c :: inside, after)
    let here := c :: rest
    if escape != .double && atTag "</" scriptName here then ([], here)
    else if c == '-' then step escape (dashes + 1)
    else if c == '>' && 2 ≤ dashes then step .none 0
    else match escape with
      | .none => step (if "<!--".toList.isPrefixOf here then .single else .none) 0
      | .single => step (if atTag "<" scriptName here then .double else .single) 0
      | .double => step (if atTag "</" scriptName here then .single else .double) 0

/-- The text inside an element without markup, and the text after it. -/
def rawText (kind : RawKind) (name t : Text) : Text × Text :=
  match kind with
  | .escapable =>
    (replaceNul (decodeReferences false (upToEndTag name t).1), (upToEndTag name t).2)
  | .raw => (replaceNul (upToEndTag name t).1, (upToEndTag name t).2)
  | .script => (replaceNul (upToScriptEnd .none 0 t).1, (upToScriptEnd .none 0 t).2)
  | .plain => (replaceNul t, [])

theorem length_upToEndTag (name t : Text) : (upToEndTag name t).2.length ≤ t.length := by
  induction t with
  | nil => simp [upToEndTag]
  | cons c cs ih =>
    unfold upToEndTag
    split
    · simp
    · simp; omega

theorem length_upToScriptEnd (escape : Escape) (dashes : Nat) (t : Text) :
    (upToScriptEnd escape dashes t).2.length ≤ t.length := by
  induction t generalizing escape dashes with
  | nil => simp [upToScriptEnd]
  | cons c cs ih =>
    have ih' (escape : Escape) (dashes : Nat) :
        (upToScriptEnd escape dashes cs).2.length ≤ (c :: cs).length :=
      Nat.le_trans (ih escape dashes) (by simp)
    simp only [upToScriptEnd]
    split
    · simp
    · split
      · exact ih' ..
      · split
        · exact ih' ..
        · split <;> exact ih' ..

theorem length_rawText (kind : RawKind) (name t : Text) :
    (rawText kind name t).2.length ≤ t.length := by
  unfold rawText
  split
  · exact length_upToEndTag name t
  · exact length_upToEndTag name t
  · exact length_upToScriptEnd .none 0 t
  · simp

end PageRules.Html
