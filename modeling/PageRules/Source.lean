import PageRules.Hub.Candidate
import PageRules.Hub.Client
import PageRules.Page

/-! Where the rules of a page come from: the page itself, or else a hub. -/

namespace PageRules

open Html (Document)

/-- The rules inside a page, with line breaks in one form. Blank rules are none. -/
def inlineRules? (d : Document) (selector : Text) : Option Text := do
  let s ← Css.Selector.read? selector
  let e ← d.elements.find? s.isMatch
  let rules := RuleText.unified e.content
  if Text.trim rules = [] then none else some rules

namespace Hub

variable {m : Type → Type} [Monad m]

/-- The addresses at which a hub may hold the rules of a host. -/
def addresses (base host : Text) : List Text :=
  (candidates host).map fun c => base ++ c ++ ".dsl".toList

/-- The first page among some addresses that is not blank. An address that has none, or that cannot
be asked for, is passed over. -/
def firstRules (fetch : Text → m (Except FetchError (Option Text))) :
    List Text → m (Option Text)
  | [] => pure none
  | address :: rest => do
    match ← fetch address with
    | .ok (some t) => if Text.trim t = [] then firstRules fetch rest else pure (some t)
    | _ => firstRules fetch rest

/-- The rules that a hub holds for a host. -/
def rulesFor (fetch : Text → m (Except FetchError (Option Text))) (base host : Text) :
    m (Option Text) :=
  firstRules fetch (addresses base host)

end Hub

variable {m : Type → Type} [Monad m]

/-- The rules of a page. The hub is asked only when the page has none and its site has a host. -/
def resolveRules (fetch : Text → m (Except Hub.FetchError (Option Text))) (d : Document)
    (site : Text) (settings : Settings) : m (Option Text) :=
  match inlineRules? d settings.inlineSelector with
  | some rules => pure (some rules)
  | none =>
    match siteHost? site with
    | some host => Hub.rulesFor fetch settings.hub.normalizedBase host
    | none => pure none

/-- Scrapes a page by its own rules, or by none where it has none. -/
def Page.scrapeResolved (fetch : Text → m (Except Hub.FetchError (Option Text))) (d : Document)
    (address : Text) (settings : Settings) : m (Except ScrapeError Page) := do
  let rules ← resolveRules fetch d address settings
  return Page.scrape d address (rules.getD []) settings

end PageRules
