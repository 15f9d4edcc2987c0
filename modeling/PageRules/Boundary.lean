import PageRules.Json.Read
import PageRules.Pool
import PageRules.Source

/-! The byte boundary for other programs. A call takes bytes, any of which may be missing, and gives
either a JSON text or the text of an error. -/

namespace PageRules.Boundary

/-- What a call gives. -/
inductive Reply where
  | json (t : Text)
  | error (t : Text)
  deriving DecidableEq

inductive Input where
  | html
  | request
  | rules
  deriving DecidableEq

def Input.name : Input → Text
  | .html => "HTML content".toList
  | .request => "Request JSON".toList
  | .rules => "Rule text".toList

inductive Failure where
  | missing (i : Input)
  | notUtf8 (i : Input)
  /-- What the reader of requests says against the text ends the message. -/
  | notRequest (more : Text)
  | scrape (e : ScrapeError)
  /-- The JSON text holds a null character. -/
  | nullInJson
  deriving DecidableEq

def Failure.message : Failure → Text
  | .missing i => "invalid request: ".toList ++ i.name ++ " is null".toList
  | .notUtf8 i => "invalid request: Invalid UTF-8 in ".toList ++ i.name
  | .notRequest more => "Failed to parse request JSON".toList ++ more
  | .scrape e => e.message
  | .nullInJson => "Result JSON contains null bytes".toList

namespace Reply

/-- No error text holds a null character, which would end it. -/
def ofMessage (t : Text) : Reply := .error (t.map fun c => if c = '\x00' then ' ' else c)

def ofFailure (f : Failure) : Reply := .ofMessage f.message

/-- A JSON text goes out only where no null character would end it. -/
def ofJson (t : Text) : Reply := if '\x00' ∈ t then .ofFailure .nullInJson else .json t

def ofExcept {α : Type} (json : α → Json) : Except Failure α → Reply
  | .ok a => .ofJson (json a).render
  | .error f => .ofFailure f

end Reply

/-! ### Inputs -/

def decode (i : Input) (bytes : List UInt8) : Except Failure Text :=
  match Text.ofBytes? bytes with
  | some t => .ok t
  | none => .error (.notUtf8 i)

/-- A text that a null byte ends. -/
def readText (i : Input) : Option (List UInt8) → Except Failure Text
  | some bytes => decode i (bytes.takeWhile (· != 0))
  | none => .error (.missing i)

/-- The HTML, which may be missing. -/
def readHtml (bytes : Option (List UInt8)) : Except Failure Text := decode .html (bytes.getD [])

structure Request where
  address : Text
  /-- The rules; the page has to tell where they are missing or blank. -/
  rules : Option Text := none
  settings : Settings := {}
  deriving DecidableEq

namespace Request

def keys : List Text := ["url".toList, "dsl".toList, "config".toList]

def ofJson? (j : Json) : Option Request := do
  match ← j.fields? keys with
  | [some address, rules, settings] =>
    return {
      address := ← address.text?
      rules := ← Json.orDefault none Json.optionalText? rules
      settings := ← Json.orDefault {} Settings.ofJson? settings }
  | _ => none

/-- Reads a request. What is wrong with a text that is none is for `explain` to say. -/
def read (explain : Text → Text) (bytes : Option (List UInt8)) : Except Failure Request := do
  let t ← readText .request bytes
  match (Json.read? t).bind ofJson? with
  | some r => .ok r
  | none => .error (.notRequest (explain t))

/-- The rules that the request brings along. -/
def ownRules? (r : Request) : Option Text := r.rules.filter fun t => !(Text.trim t).isEmpty

end Request

/-! ### Calls -/

/-- The hub clients kept from call to call, by the settings they were made for. -/
abbrev Clients := Pool HubSettings Hub.Client

def maxClients : Nat := 16

variable {m : Type → Type} [Monad m]

/-- Scrapes a page by its own rules with the client that the settings share. -/
def scrapeShared (ask : Hub.Request → m Hub.Response) (clock : m Nat) (d : Html.Document)
    (r : Request) : StateT Clients m (Except ScrapeError Page) := fun clients => do
  let (client, clients) ←
    clients.obtain maxClients r.settings.hub (pure (Hub.Client.of r.settings.hub))
  let (page, client) ←
    (Page.scrapeResolved (Hub.Client.fetch ask clock) d r.address r.settings).run client
  return (page, clients.update r.settings.hub client)

def scrape (ask : Hub.Request → m Hub.Response) (clock : m Nat) (html : Text) (r : Request) :
    StateT Clients m (Except ScrapeError Page) :=
  match r.ownRules? with
  | some rules => return Page.scrape (.read html) r.address rules r.settings
  | none => scrapeShared ask clock (.read html) r

/-- Scrapes a page as a request says. The clock is the one that the hub clients go by; nothing is
explained unless an explanation is given. -/
def extract (ask : Hub.Request → m Hub.Response) (html request : Option (List UInt8))
    (clock : m Nat := pure 0) (explain : Text → Text := fun _ => []) : StateT Clients m Reply :=
  match (do return (← readHtml html, ← Request.read explain request) :
    Except Failure (Text × Request)) with
  | .error f => return .ofFailure f
  | .ok (html, r) => do
    return .ofExcept Page.toJson ((← scrape ask clock html r).mapError .scrape)

/-- What the rules of a text are, for their author. -/
def summary (c : RuleText.Compilation) : Json :=
  .obj [("page-type".toList, Json.ofOption .str c.pageType),
    ("scopes".toList, .arr (c.scopes.map fun s =>
      .obj [("pattern".toList, .str s.pattern),
        ("sections".toList, .arr (s.rules.map (.str ·.name)))])),
    ("diagnostics".toList, .arr (c.diagnostics.map RuleText.Diagnostic.toJson))]

def checkRules (rules : Option (List UInt8)) : Reply :=
  .ofExcept (summary ∘ RuleText.compile) (readText .rules rules)

end PageRules.Boundary
