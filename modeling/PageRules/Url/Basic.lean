import PageRules.Url.Host

/-! URLs by their parts. Every part is kept in the encoded form in which it is written. -/

namespace PageRules

structure Authority where
  username : Text := []
  password : Text := []
  host : Option Host := none
  portNumber : Option Nat := none
  deriving DecidableEq

/-- A path is a list of segments, each written after a slash, or a text without structure. -/
inductive UrlPath where
  | segments (l : List Text)
  | opaqueText (t : Text)
  deriving DecidableEq

structure Url where
  scheme : Text
  authority : Option Authority
  path : UrlPath
  query : Option Text := none
  fragment : Option Text := none
  deriving DecidableEq

namespace Authority

def renderUserinfo (a : Authority) : Text :=
  if a.username.isEmpty && a.password.isEmpty then []
  else a.username ++ (if a.password.isEmpty then [] else ':' :: a.password) ++ ['@']

def render (a : Authority) : Text :=
  a.renderUserinfo ++ ((a.host.map Host.render).getD []) ++
    (match a.portNumber with
      | some n => ':' :: Text.ofNat n
      | none => [])

end Authority

namespace UrlPath

def render : UrlPath → Text
  | .segments l => l.flatMap ('/' :: ·)
  | .opaqueText t => t

/-- The path has no segments that a relative reference could replace. -/
def isOpaque : UrlPath → Bool
  | .segments _ => false
  | .opaqueText _ => true

/-- The path that a text writes, where a slash stands before each segment. -/
def ofText (t : Text) : UrlPath := .segments ((Text.splitOn (· == '/') t).drop 1)

def segmentList : UrlPath → List Text
  | .segments l => l
  | .opaqueText _ => []

end UrlPath

namespace Url

def pathText (u : Url) : Text := u.path.render

/-- The host as it is written. -/
def hostText? (u : Url) : Option Text := do
  return (← (← u.authority).host).render

/-- The scheme, the authority and the path. Without an authority, a path that begins with two
slashes is set off by a dot segment. -/
def renderHead (u : Url) : Text :=
  u.scheme ++ ':' ::
    (match u.authority with
      | some a => ['/', '/'] ++ a.render
      | none => if ['/', '/'].isPrefixOf u.pathText then ['/', '.'] else []) ++ u.pathText

def render (u : Url) : Text :=
  u.renderHead ++
    (match u.query with
      | some q => '?' :: q
      | none => []) ++
    (match u.fragment with
      | some f => '#' :: f
      | none => [])

end Url
end PageRules
