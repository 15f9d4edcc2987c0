import PageRules.Extraction
import PageRules.RuleText.Compile
import PageRules.Settings
import PageRules.Site

/-! A page scraped by the rules of a rule text. -/

namespace PageRules

open Html (Document)

structure Page where
  /-- What the rules call pages of this kind. -/
  pageType : Text
  /-- The path that the rules were selected for. -/
  path : Text
  records : List Record
  diagnostics : List RuleText.Diagnostic
  deriving DecidableEq

inductive ScrapeError where
  | overwrite (e : ValueOverwrite)
  | base (e : InvalidBase)
  deriving DecidableEq

def ScrapeError.message : ScrapeError → Text
  | .overwrite e => e.message
  | .base e => e.message

def RuleText.Diagnostic.toJson (d : Diagnostic) : Json :=
  .obj [("kind".toList, .str d.issue.kind.name), ("line".toList, .int d.line),
    ("message".toList, .str d.issue.message)]

namespace Page

def defaultType : Text := "generic".toList

def toJson (p : Page) : Json :=
  .obj [("page-type".toList, .str p.pageType), ("path".toList, .str p.path),
    ("records".toList, .arr (p.records.map Record.toJson)),
    ("diagnostics".toList, .arr (p.diagnostics.map RuleText.Diagnostic.toJson))]

/-- The base for relative addresses: the one of the settings, else the address of the page. -/
def base (settings : Settings) (address : Text) : Except InvalidBase (Option Url) :=
  settings.base.map fun
    | some url => some url
    | none => (Url.read address).toOption

/-- Scrapes the document found at an address. -/
def scrape (d : Document) (address rules : Text) (settings : Settings) :
    Except ScrapeError Page := do
  let base ← (base settings address).mapError .base
  let path := requestPath address
  let compilation := RuleText.compile rules
  let records ← (extract base (compilation.select path) d).mapError .overwrite
  return {
    pageType := compilation.pageType.getD defaultType
    path
    records
    diagnostics := compilation.diagnostics }

end Page
end PageRules
