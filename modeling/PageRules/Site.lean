import PageRules.Url.Read

/-! The path and the host of an address. Addresses need not be URLs: a bare path or a bare host
also has them. -/

namespace PageRules

/-- The path that a URL or a path asks for, without query and fragment. -/
def requestPath (address : Text) : Text :=
  match Url.read address with
  | .ok url => url.pathText
  | .error _ =>
    match Text.trim (address.takeWhile fun c => c != '?' && c != '#') with
    | [] => ['/']
    | '/' :: rest => '/' :: rest
    | path => '/' :: path

/-- The text before a colon that only digits follow, or all of it. -/
def withoutPort (authority : Text) : Text :=
  match Text.splitOnce (· == ':') authority.reverse with
  | some (digits, host) => if digits.all Char.isDigit then host.reverse else authority
  | none => authority

/-- The host of a URL or of a bare host, in lower case and without the number after it. -/
def siteHost? (site : Text) : Option Text :=
  let site := Text.trim site
  let written := match Url.read site with
    | .ok url => url.hostText?
    | .error _ => none
  match written with
  | some host => some (Text.lower host)
  | none =>
    let host := withoutPort (site.takeWhile fun c => c != '/' && c != '?' && c != '#')
    if host = [] then none else some (Text.lower host)

end PageRules
