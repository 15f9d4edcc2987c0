import PageRules.Json.Decode
import PageRules.Url.Read

/-! Settings. All have defaults, so an empty object decodes to the default settings. -/

namespace PageRules

/-- Where the hub is and how it is asked. -/
structure HubSettings where
  base : Text := "https://hub.tvai.tv/".toList
  timeoutSeconds : Nat := 30
  userAgent : Text := "Mozilla/5.0".toList
  deriving DecidableEq

namespace HubSettings

def keys : List Text := ["base".toList, "timeout-secs".toList, "user-agent".toList]

def ofJson? (j : Json) : Option HubSettings := do
  let defaults : HubSettings := {}
  match ← j.fields? keys with
  | [base, timeout, agent] =>
    return {
      base := ← Json.orDefault defaults.base Json.text? base
      timeoutSeconds := ← Json.orDefault defaults.timeoutSeconds Json.word? timeout
      userAgent := ← Json.orDefault defaults.userAgent Json.text? agent }
  | _ => none

def toJson (h : HubSettings) : Json :=
  .obj (keys.zip [.str h.base, .int h.timeoutSeconds, .str h.userAgent])

/-- The base, ending in a slash. -/
def normalizedBase (h : HubSettings) : Text :=
  let base := Text.trim h.base
  if base.getLast? = some '/' then base else base ++ ['/']

end HubSettings

/-- A base for relative addresses that is no URL. -/
structure InvalidBase where
  written : Text
  error : UrlError
  deriving DecidableEq

def InvalidBase.message (e : InvalidBase) : Text :=
  "invalid base URL ".toList ++ e.written ++ [':', ' '] ++ e.error.message

structure Settings where
  /-- What relative addresses are resolved against. -/
  baseUrl : Option Text := none
  hub : HubSettings := {}
  /-- The element that holds the rules inside a page. -/
  inlineSelector : Text := "script[type=\"text/plain\"][name=\"tv-like\"]".toList
  deriving DecidableEq

namespace Settings

def keys : List Text := ["base-url".toList, "hub".toList, "inline-script-selector".toList]

def ofJson? (j : Json) : Option Settings := do
  let defaults : Settings := {}
  match ← j.fields? keys with
  | [base, hub, selector] =>
    return {
      baseUrl := ← Json.orDefault none Json.optionalText? base
      hub := ← Json.orDefault {} HubSettings.ofJson? hub
      inlineSelector := ← Json.orDefault defaults.inlineSelector Json.text? selector }
  | _ => none

def toJson (s : Settings) : Json :=
  .obj (keys.zip [Json.ofOption .str s.baseUrl, s.hub.toJson, .str s.inlineSelector])

/-- The base for relative addresses; a blank one is none. -/
def base (s : Settings) : Except InvalidBase (Option Url) :=
  match Text.trim (s.baseUrl.getD []) with
  | [] => .ok none
  | written =>
    match Url.read written with
    | .ok url => .ok (some url)
    | .error e => .error ⟨written, e⟩

end Settings
end PageRules
