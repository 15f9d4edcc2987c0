import PageRules.Text.Basic

/-! The names under which a hub may hold the rules of a host. -/

namespace PageRules.Hub

/-- The labels of a host from last to first, as a path. -/
def domainPath (host : Text) : Text := Text.join ['/'] (Text.splitOn (· == '.') host).reverse

/-- The host, its bare domain, and both as paths. -/
def spellings (host : Text) : List Text :=
  host :: ("www.".toList.isPrefixOf? host).toList ++
    domainPath host :: ("/www".toList.isSuffixOf? (domainPath host)).toList

/-- The names to try for a host, in order, each once and none empty. -/
def candidates (host : Text) : List Text := ((spellings host).filter (· ≠ [])).eraseDups

end PageRules.Hub
