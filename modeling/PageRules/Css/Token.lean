import PageRules.Text.Basic

/-! The tokens of a CSS text. Comments separate tokens and leave no trace. -/

namespace PageRules.Css

/-- A number: whether it has a sign, and its value where it is whole. -/
structure Number where
  signed : Bool
  value : Option Int

inductive Token where
  | ident (name : Text)
  /-- A number sign and a name that could stand alone. -/
  | id (name : Text)
  | string (t : Text)
  /-- A string or an address that ends in the wrong place. -/
  | bad
  | delim (c : Char)
  /-- A comparison sign such as `~=`, by its first character. -/
  | comparison (c : Char)
  | number (n : Number)
  | dimension (n : Number) (unit : Text)
  | white
  | colon
  | comma
  | function (name : Text)
  | opening (c : Char)
  | closing (c : Char)
  /-- Anything that has no place in a selector. -/
  | other

def replacement : Char := Char.ofNat 0xFFFD

def cleanChar (c : Char) : Char := if c.toNat = 0 then replacement else c

def isBreak (c : Char) : Bool := c == '\n' || c == '\r' || c == '\x0c'

def hexRun (t : Text) : Text := (t.take 6).takeWhile Text.isHexDigit

/-- Drops one white space character; a carriage return takes the line feed after it along. -/
def dropWhite : Text → Text
  | '\r' :: '\n' :: rest => rest
  | c :: rest => if Text.isSpace c then rest else c :: rest
  | [] => []

def charOfHex (ds : Text) : Char :=
  let n := (Text.hexNumber? ds).getD 0
  if n = 0 || !n.isValidChar then replacement else Char.ofNat n

/-- The character that an escape stands for, after its backslash, and the text after it. -/
def escaped (t : Text) : Char × Text :=
  if (hexRun t).isEmpty then
    match t with
    | c :: rest => (cleanChar c, rest)
    | [] => (replacement, [])
  else (charOfHex (hexRun t), dropWhite (t.drop (hexRun t).length))

theorem length_dropWhite_le (t : Text) : (dropWhite t).length ≤ t.length := by
  unfold dropWhite
  split
  · simp; omega
  · split <;> simp
  · simp

theorem length_escaped (t : Text) : (escaped t).2.length ≤ t.length := by
  unfold escaped
  split
  · split <;> simp
  · exact Nat.le_trans (length_dropWhite_le _) (by simp)

/-- A backslash in front of the text begins an escape. -/
def escapes (t : Text) : Bool :=
  match t with
  | c :: _ => !isBreak c
  | [] => true

def startsName (c : Char) : Bool := c.isAlpha || c == '_' || c.toNat == 0 || 128 ≤ c.toNat

def continuesName (c : Char) : Bool := startsName c || c.isDigit || c == '-'

/-- An identifier is at the front. -/
def atIdent (t : Text) : Bool :=
  match t with
  | '-' :: '-' :: _ => true
  | '-' :: '\\' :: rest => escapes rest
  | '-' :: c :: _ => startsName c
  | '\\' :: rest => escapes rest
  | c :: _ => startsName c
  | [] => false

/-- The name at the front and the text after it. -/
def name (t : Text) : Text × Text :=
  match t with
  | [] => ([], [])
  | c :: rest =>
    if c == '\\' then
      if escapes rest then
        have := length_escaped rest
        let (more, after) := name (escaped rest).2
        ((escaped rest).1 :: more, after)
      else ([], t)
    else if continuesName c then
      let (more, after) := name rest
      (cleanChar c :: more, after)
    else ([], t)
termination_by t.length
decreasing_by all_goals simp_all; try omega

/-- Drops the line break at the front; a carriage return takes the line feed after it along. -/
def dropBreak : Text → Text
  | '\r' :: '\n' :: rest => rest
  | _ :: rest => rest
  | [] => []

theorem length_dropBreak_le (t : Text) : (dropBreak t).length ≤ t.length := by
  unfold dropBreak
  split <;> simp
  omega

/-- The string up to a quote or the end of the text, and the text after it. A line break makes the
string bad, unless a backslash stands in front of it. -/
def string (quote : Char) (t : Text) : Option Text × Text :=
  match t with
  | [] => (some [], [])
  | c :: rest =>
    if c == quote then (some [], rest)
    else if isBreak c then (none, t)
    else if c == '\\' then
      if rest.isEmpty then (some [], [])
      else if escapes rest then
        have := length_escaped rest
        let (inside, after) := string quote (escaped rest).2
        (inside.map ((escaped rest).1 :: ·), after)
      else
        have := length_dropBreak_le rest
        string quote (dropBreak rest)
    else
      let (inside, after) := string quote rest
      (inside.map (cleanChar c :: ·), after)
termination_by t.length
decreasing_by all_goals simp_all; try omega

/-- The text after a comment, where its opening was read. -/
def afterComment : Text → Text
  | '*' :: '/' :: rest => rest
  | _ :: rest => afterComment rest
  | [] => []

/-! ### Addresses -/

def isPrintable (c : Char) : Bool :=
  !((1 ≤ c.toNat && c.toNat ≤ 8) || c.toNat == 0xB || (0xE ≤ c.toNat && c.toNat ≤ 0x1F) ||
    c.toNat == 0x7F)

/-- The text after an address that cannot be read. An escaped parenthesis does not end it. -/
def afterBadAddress : Text → Text
  | ')' :: rest => rest
  | '\\' :: ')' :: rest => afterBadAddress rest
  | '\\' :: '\\' :: rest => afterBadAddress rest
  | _ :: rest => afterBadAddress rest
  | [] => []

/-- The token of an address of which only the end is left, and the text after it. -/
def addressEnd (t : Text) : Token × Text :=
  match t with
  | [] => (.other, [])
  | ')' :: rest => (.other, rest)
  | _ :: rest => (.bad, afterBadAddress rest)

/-- The token of an address without quotes, and the text after it. -/
def address (t : Text) : Token × Text :=
  match t with
  | [] => (.other, [])
  | c :: rest =>
    if Text.isSpace c then addressEnd (rest.dropWhile Text.isSpace)
    else if c == ')' then (.other, rest)
    else if c == '"' || c == '\'' || c == '(' || !isPrintable c then (.bad, afterBadAddress rest)
    else if c == '\\' then
      if escapes rest then
        have := length_escaped rest
        address (escaped rest).2
      else (.bad, afterBadAddress rest)
    else address rest
termination_by t.length
decreasing_by all_goals simp_all; try omega

/-- The token of a name with a parenthesis after it, and the text after both. What follows `url` is
an address, unless it is in quotes. -/
def functionOrAddress (name after : Text) : Token × Text :=
  let inside := after.dropWhile Text.isSpace
  let quoted := inside.head? = some '"' || inside.head? = some '\''
  if Text.eqIgnoreCase name "url".toList && !quoted then address inside else (.function name, after)

/-! ### Numbers -/

/-- A number is at the front. -/
def atNumber (t : Text) : Bool :=
  let unsigned (t : Text) : Bool :=
    match t with
    | '.' :: c :: _ => c.isDigit
    | c :: _ => c.isDigit
    | [] => false
  match t with
  | c :: rest => if c == '+' || c == '-' then unsigned rest else unsigned t
  | [] => false

/-- Whole numbers are held to 32 bits. -/
def saturate (n : Int) : Int := max (-0x80000000) (min 0x7FFFFFFF n)

/-- The fraction and the exponent at the front are dropped; says whether there are any. -/
def dropFraction (t : Text) : Bool × Text :=
  match t with
  | '.' :: c :: rest => if c.isDigit then (true, rest.dropWhile Char.isDigit) else (false, t)
  | _ => (false, t)

def dropSign : Text → Text
  | c :: rest => if c == '+' || c == '-' then rest else c :: rest
  | [] => []

def startsDigit (t : Text) : Bool := (t.head?.map Char.isDigit).getD false

def dropExponent (t : Text) : Bool × Text :=
  match t with
  | e :: rest =>
    if (e == 'e' || e == 'E') && startsDigit (dropSign rest) then
      (true, (dropSign rest).dropWhile Char.isDigit)
    else (false, t)
  | [] => (false, [])

/-- The number at the front and the text after it. -/
def number (t : Text) : Number × Text :=
  let whole : Int := (Text.toNat? ((dropSign t).takeWhile Char.isDigit)).getD 0
  let (fraction, rest) := dropFraction ((dropSign t).dropWhile Char.isDigit)
  let (exponent, rest) := dropExponent rest
  let value := saturate (if t.head? = some '-' then -whole else whole)
  (⟨t.head? = some '+' || t.head? = some '-', if fraction || exponent then none else some value⟩,
    rest)

/-- The number at the front with its unit. -/
def numeric (t : Text) : Token × Text :=
  let (n, rest) := number t
  if atIdent rest then
    let (unit, rest) := name rest
    (.dimension n unit, rest)
  else if rest.head? = some '%' then (.other, rest.drop 1)
  else (.number n, rest)

/-- The token at the front of `c :: rest`, if there is one, and the text after it. -/
def next (c : Char) (rest : Text) : Option Token × Text :=
  let t := c :: rest
  if Text.isSpace c then (some .white, rest.dropWhile Text.isSpace)
  else if c == '"' || c == '\'' then
    let (inside, after) := string c rest
    (some (match inside with
      | some s => .string s
      | none => .bad), after)
  else if "/*".toList.isPrefixOf t then (none, afterComment (rest.drop 1))
  else if atNumber t then
    let (token, after) := numeric t
    (some token, after)
  else if "-->".toList.isPrefixOf t then (some .other, rest.drop 2)
  else if atIdent t then
    let (n, after) := name t
    match after with
    | '(' :: after =>
      let (token, after) := functionOrAddress n after
      (some token, after)
    | _ => (some (.ident n), after)
  else if c == '#' then
    if atIdent rest then
      let (n, after) := name rest
      (some (.id n), after)
    else match rest with
      | d :: _ => if continuesName d then (some .other, (name rest).2) else (some (.delim c), rest)
      | [] => (some (.delim c), rest)
  else if c == '@' then
    if atIdent rest then (some .other, (name rest).2) else (some (.delim c), rest)
  else if "<!--".toList.isPrefixOf t then (some .other, rest.drop 3)
  else if c == ':' then (some .colon, rest)
  else if c == ',' then (some .comma, rest)
  else if c == ';' then (some .other, rest)
  else if c == '(' || c == '[' || c == '{' then (some (.opening c), rest)
  else if c == ')' || c == ']' || c == '}' then (some (.closing c), rest)
  else if ['~', '|', '^', '$', '*'].contains c && rest.head? = some '=' then
    (some (.comparison c), rest.drop 1)
  else (some (.delim c), rest)

/-- The tokens of a text, where its first `passed` characters belong to a token already read. -/
def tokensFrom (passed : Nat) : Text → List Token
  | [] => []
  | c :: rest =>
    match passed with
    | n + 1 => tokensFrom n rest
    | 0 => (next c rest).1.toList ++ tokensFrom (rest.length - (next c rest).2.length) rest

/-- The tokens of a text. -/
def tokens (t : Text) : List Token := tokensFrom 0 t

end PageRules.Css
