import PageRules.Url.Basic

/-! Reading URLs. A reference without a scheme is read against a base. -/

namespace PageRules.Url

/-- How a scheme has its URLs read. -/
inductive SchemeKind where
  | file
  | special
  | other
  deriving DecidableEq

def defaultPorts : List (Text × Nat) :=
  [("http".toList, 80), ("https".toList, 443), ("ws".toList, 80), ("wss".toList, 443),
    ("ftp".toList, 21)]

def SchemeKind.of (scheme : Text) : SchemeKind :=
  if scheme = "file".toList then .file
  else if (defaultPorts.lookup scheme).isSome then .special
  else .other

def SchemeKind.isSpecial : SchemeKind → Bool
  | .other => false
  | _ => true

/-- The text without spaces and controls at its ends and without tabs and line breaks. -/
def cleanInput (t : Text) : Text :=
  let isEdge (c : Char) : Bool := c.toNat ≤ 0x20
  (Text.dropEndWhile isEdge (t.dropWhile isEdge)).filter
    fun c => !(c == '\t' || c == '\n' || c == '\r')

def isSchemeChar (c : Char) : Bool := c.isAlphanum || c == '+' || c == '-' || c == '.'

/-- The scheme in lower case and the text after its colon. -/
def scheme? (t : Text) : Option (Text × Text) :=
  match t with
  | c :: _ =>
    if c.isAlpha then
      match t.dropWhile isSchemeChar with
      | ':' :: rest => some (Text.lower (t.takeWhile isSchemeChar), rest)
      | _ => none
    else none
  | [] => none

/-- Both kinds of slashes count where a scheme is special. -/
def isSlash (c : Char) : Bool := c == '/' || c == '\\'

def endsPath (c : Char) : Bool := c == '?' || c == '#'

/-- The query and the fragment, for a text that is empty or begins with their marks. -/
def readTail (kind : SchemeKind) (t : Text) : Option Text × Option Text :=
  let encodes := if kind.isSpecial then encodesSpecialQuery else encodesQuery
  let fragment (t : Text) : Option Text :=
    match t with
    | _ :: rest => some (percentEncode encodesFragment rest)
    | [] => none
  match t with
  | '?' :: rest =>
    (some (percentEncode encodes (rest.takeWhile (· != '#'))), fragment (rest.dropWhile (· != '#')))
  | _ => (none, fragment t)

/-! ### Paths -/

def isSingleDot (segment : Text) : Bool :=
  [".", "%2e"].any fun dot => Text.eqIgnoreCase dot.toList segment

def isDoubleDot (segment : Text) : Bool :=
  ["..", "%2e%2e", "%2e.", ".%2e"].any fun dots => Text.eqIgnoreCase dots.toList segment

/-- A letter and a colon, which name a drive. -/
def isDrive : Text → Bool
  | [c, ':'] => c.isAlpha
  | _ => false

/-- A drive with a bar in place of the colon, or with the colon. -/
def isDriveSpelling : Text → Bool
  | [c, d] => c.isAlpha && (d == ':' || d == '|')
  | _ => false

/-- The text begins with a segment that names a drive. -/
def startsWithDrive (t : Text) : Bool :=
  isDriveSpelling (t.take 2) &&
    match t.drop 2 with
    | c :: _ => isSlash c || endsPath c
    | [] => true

def endsInSlash (path : Text) : Bool := path.getLast? == some '/'

/-- The text after the last slash. -/
def lastSegment (path : Text) : Text := Text.afterLast (· == '/') path

/-- The path up to its last slash; a drive at the end of a file path stays. -/
def dropSegment (kind : SchemeKind) (path : Text) : Text :=
  if kind = .file && isDrive (lastSegment path) then path
  else path.take (path.length - (lastSegment path).length)

/-- The path above one that ends in a slash. Nothing is above the root or a drive. -/
def parentPath (kind : SchemeKind) (path : Text) : Text :=
  let above := path.dropLast
  if above.contains '/' && !startsWithDrive (lastSegment above ++ ['/']) then
    dropSegment kind above
  else dropSegment kind path

/-- Adds a written segment to a path; dot segments move in it. What follows a drive alone is set off
from it by a slash. -/
def addSegment (kind : SchemeKind) (last : Bool) (path written : Text) : Text :=
  let segment := percentEncode encodesPath written
  let path :=
    if kind = .file && !segment.isEmpty && isDrive (path.drop 1) then path ++ ['/'] else path
  if isDoubleDot segment then
    let parent := parentPath kind path
    if last || endsInSlash parent then parent else parent ++ ['/']
  else if isSingleDot segment then if endsInSlash path then path else path ++ ['/']
  else path ++ segment ++ if last then [] else ['/']

def addSegments (kind : SchemeKind) (path : Text) : List Text → Text
  | [] => path
  | [written] => addSegment kind true path written
  | written :: rest => addSegments kind (addSegment kind false path written) rest

/-- The path that a text adds to a path, and the text after it. A drive right after the root is
written with a colon, and a file path begins with one slash. -/
def readPath (kind : SchemeKind) (base t : Text) : Text × Text :=
  let separates (c : Char) : Bool := c == '/' || (kind.isSpecial && c == '\\')
  let written := t.takeWhile (!endsPath ·)
  let written :=
    if kind = .file && base = ['/'] && startsWithDrive written then
      written.take 1 ++ ':' :: written.drop 2
    else written
  let path := addSegments kind base (Text.splitOn separates written)
  (if kind = .file then '/' :: path.dropWhile (· == '/') else path, t.dropWhile (!endsPath ·))

/-- The path after an authority. Special URLs always have a path. -/
def readPathStart (kind : SchemeKind) (t : Text) : Text × Text :=
  match t with
  | [] => if kind.isSpecial then (['/'], []) else ([], [])
  | c :: rest =>
    if c == '/' || (kind.isSpecial && c == '\\') then readPath kind ['/'] rest
    else if !kind.isSpecial && endsPath c then ([], t)
    else readPath kind ['/'] t

/-- A URL from its head and the text of its query and fragment. -/
def withTail (scheme : Text) (authority : Option Authority) (path : UrlPath) (t : Text) : Url :=
  let (query, fragment) := readTail (.of scheme) t
  { scheme, authority, path, query, fragment }

/-! ### Authorities -/

/-- The user name and the password before an at sign. -/
def readCredentials (t : Text) : Text × Text :=
  match Text.splitOnce (· == ':') t with
  | some (name, password) =>
    (percentEncode encodesUserinfo name, percentEncode encodesUserinfo password)
  | none => (percentEncode encodesUserinfo t, [])

/-- The text before and after the last at sign. -/
def splitAt? (t : Text) : Option (Text × Text) :=
  (Text.splitOnce (· == '@') t.reverse).map fun (after, before) => (before.reverse, after.reverse)

/-- The host's text and what stands after it; colons inside brackets belong to the host. -/
def splitHost (bracketed : Bool) : Text → Text × Text
  | [] => ([], [])
  | c :: rest =>
    if c == ':' && !bracketed then ([], c :: rest)
    else
      let (host, after) := splitHost (c == '[' || (bracketed && c != ']')) rest
      (c :: host, after)

/-- The number after a colon and the text after it. The default of a scheme is left out, and a
backslash ends the number. -/
def readPort (scheme : Text) (t : Text) : Except UrlError (Option Nat × Text) :=
  match t with
  | ':' :: digits =>
    let rest := digits.dropWhile Char.isDigit
    if rest.isEmpty || rest.head? = some '\\' then
      match Text.toNat? (digits.takeWhile Char.isDigit) with
      | none => .ok (none, rest)
      | some n =>
        if n ≤ 0xFFFF then
          .ok (if defaultPorts.lookup scheme = some n then none else some n, rest)
        else .error .invalidPort
    else .error .invalidPort
  | _ => .ok (none, t)

/-- An authority without its credentials, and the text after it. -/
def readHostPort (scheme : Text) (t : Text) : Except UrlError (Authority × Text) := do
  let (hostText, portText) := splitHost false t
  if hostText.isEmpty then
    if (SchemeKind.of scheme).isSpecial || !portText.isEmpty then .error .emptyHost
    else return ({}, [])
  else
    let host ← if (SchemeKind.of scheme).isSpecial then Host.read hostText
      else Host.readOpaque hostText
    let (portNumber, rest) ← readPort scheme portText
    return ({ host := some host, portNumber }, rest)

/-- An authority with its credentials, and the text after it; `ends` says that the URL ends
with it. -/
def readCredentialed (scheme : Text) (ends : Bool) (t : Text) :
    Except UrlError (Authority × Text) :=
  match splitAt? t with
  | none => readHostPort scheme t
  | some (credentials, hostPort) =>
    if credentials.isEmpty && hostPort.isEmpty && !ends then .error .emptyHost
    else do
      let (username, password) := readCredentials credentials
      let (a, rest) ← readHostPort scheme hostPort
      if a.host.isNone && !(username.isEmpty && password.isEmpty) then .error .emptyHost
      else return ({ a with username, password }, rest)

/-- A URL from the text after the two slashes. -/
def readAuthority (scheme : Text) (t : Text) : Except UrlError Url := do
  let kind := SchemeKind.of scheme
  let inside (c : Char) : Bool := !(c == '/' || endsPath c || (kind.isSpecial && c == '\\'))
  let after := t.dropWhile inside
  let (authority, rest) ← readCredentialed scheme after.isEmpty (t.takeWhile inside)
  let (path, tail) := readPathStart kind (rest ++ after)
  return withTail scheme (some authority) (.ofText path) tail

/-! ### Files -/

def fileScheme : Text := "file".toList

def fileUrl (host : Option Host) (base t : Text) : Url :=
  let (path, tail) := readPath .file base t
  withTail fileScheme (some { host }) (.ofText path) tail

/-- A file URL from the text after its two slashes. A path that begins with a drive is on no
host. -/
def readFileHost (t : Text) : Except UrlError Url := do
  let inside (c : Char) : Bool := !(isSlash c || endsPath c)
  let hostText := t.takeWhile inside
  let rest := t.dropWhile inside
  if isDriveSpelling hostText then return fileUrl none ['/'] t
  else
    let host ← if hostText.isEmpty then pure none else (Host.read hostText).map some
    if host.isNone || host = some (.domain "localhost".toList) then return fileUrl none [] rest
    else if (rest.head?.any isSlash) && startsWithDrive (rest.drop 1) then
      return fileUrl none ['/'] (rest.drop 1)
    else
      let (path, tail) := readPathStart .file rest
      return withTail fileScheme (some { host }) (.ofText path) tail

/-- The base with its fragment replaced. -/
def withFragment (base : Url) (t : Text) : Url :=
  { base with fragment := (readTail .other t).2 }

def readFile (base : Option Url) (t : Text) : Except UrlError Url :=
  match t with
  | c :: rest =>
    if isSlash c then
      match rest with
      | d :: more =>
        if isSlash d then readFileHost more else .ok (absolute base t rest)
      | [] => .ok (absolute base t rest)
    else match base with
      | none => .ok (fileUrl none ['/'] t)
      | some b =>
        if c == '#' then .ok (withFragment b t)
        else if c == '?' then .ok (withTail fileScheme b.authority b.path t)
        else if startsWithDrive t then .ok (fileUrl none ['/'] t)
        else .ok (fileUrl (b.authority.bind (·.host)) (dropSegment .file b.pathText) t)
  | [] =>
    match base with
    | some b => .ok { b with fragment := none }
    | none => .ok (fileUrl none ['/'] [])
where
  /-- A path from the root, `t`, keeps the drive or the host of the base. -/
  absolute (base : Option Url) (t rest : Text) : Url :=
    match base with
    | some b =>
      let drive := b.path.segmentList.headD []
      if startsWithDrive rest then fileUrl none [] t
      else if isDrive drive then fileUrl none ('/' :: drive) t
      else fileUrl (b.authority.bind (·.host)) [] t
    | none => fileUrl none [] t

/-! ### References -/

/-- A reference without a scheme, against a base with segments. -/
def readRelative (base : Url) (t : Text) : Except UrlError Url :=
  let kind := SchemeKind.of base.scheme
  match t with
  | [] => .ok { base with fragment := none }
  | c :: rest =>
    if c == '#' then .ok (withFragment base t)
    else if c == '?' then .ok (withTail base.scheme base.authority base.path t)
    else if isSlash c then
      match rest with
      | d :: more =>
        if isSlash d then
          readAuthority base.scheme (if c == '/' && d == '/' then more else t.dropWhile isSlash)
        else .ok (onBase kind ['/'] rest)
      | [] => .ok (onBase kind ['/'] rest)
    else
      let path := dropSegment kind base.pathText
      .ok (onBase kind (if path.isEmpty then ['/'] else path) t)
where
  onBase (kind : SchemeKind) (above t : Text) : Url :=
    let (path, tail) := readPath kind above t
    withTail base.scheme base.authority (.ofText path) tail

/-- A URL from its scheme and the text after the colon. -/
def readWithScheme (base : Option Url) (scheme t : Text) : Except UrlError Url :=
  let sameScheme := base.filter (·.scheme = scheme)
  match SchemeKind.of scheme with
  | .file => readFile sameScheme t
  | .special =>
    match sameScheme with
    | some b =>
      if (t.takeWhile isSlash).length < 2 then readRelative b t
      else readAuthority scheme (t.dropWhile isSlash)
    | none => readAuthority scheme (t.dropWhile isSlash)
  | .other =>
    match t with
    | '/' :: '/' :: rest => readAuthority scheme rest
    | '/' :: rest =>
      let (path, tail) := readPath .other ['/'] rest
      .ok (withTail scheme none (.ofText path) tail)
    | _ =>
      let path := percentEncode isControl (t.takeWhile (!endsPath ·))
      .ok (withTail scheme none (.opaqueText path) (t.dropWhile (!endsPath ·)))

/-- Reads a URL, or a reference against a base. -/
def readWith (base : Option Url) (t : Text) : Except UrlError Url :=
  let t := cleanInput t
  match scheme? t with
  | some (scheme, rest) => readWithScheme base scheme rest
  | none =>
    match base with
    | none => .error .relativeWithoutBase
    | some b =>
      if t.head? = some '#' then .ok (withFragment b t)
      else if b.path.isOpaque then .error .relativeWithOpaqueBase
      else if b.scheme = fileScheme then readFile base t
      else readRelative b t

def read (t : Text) : Except UrlError Url := readWith none t

def join (base : Url) (t : Text) : Except UrlError Url := readWith (some base) t

end PageRules.Url
