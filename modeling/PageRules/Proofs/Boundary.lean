import Mathlib
import PageRules.Proofs.Json.Clear
import PageRules.Proofs.Scraping
import PageRules.Proofs.Text.Bytes

/-!
# Replies

The world is what the hub answers and the clock shows, and it may change with every request. A call
comes to a page where its inputs can be read and its base can be used, and to a failure otherwise
(`reply_cases`). No text that it gives out is cut short by a null byte, since JSON escapes the null
characters of a page and error texts have them replaced (`reply_outcome`).
-/

namespace PageRules

open Html (Document)

namespace Boundary

/-! ## Inputs -/

theorem decode_eq_ok_iff {i : Input} {bytes : List UInt8} {t : Text} :
    decode i bytes = .ok t ↔ bytes = Text.bytes t := by
  rw [← Text.ofBytes?_eq_some_iff]
  unfold decode
  cases Text.ofBytes? bytes with
  | none => exact ⟨nofun, nofun⟩
  | some u => rw [Except.ok.injEq, Option.some.injEq]

/-- The bytes of the HTML are those of a text, which is empty where they are missing. -/
def Shows (html : Option (List UInt8)) (t : Text) : Prop := html.getD [] = Text.bytes t

theorem readHtml_eq_ok_iff {html : Option (List UInt8)} {t : Text} :
    readHtml html = .ok t ↔ Shows html t := decode_eq_ok_iff

theorem exists_shows_iff {html : Option (List UInt8)} :
    (∃ t, Shows html t) ↔ html = none ∨ html = some [] ∨ ∃ t, html = some (Text.bytes t) := by
  cases html with
  | none => exact iff_of_true ⟨[], rfl⟩ (.inl rfl)
  | some bytes =>
    simp only [Shows, Option.getD_some, reduceCtorEq, false_or, Option.some.injEq]
    exact ⟨.inr, fun h => h.elim (fun he => ⟨[], he⟩) id⟩

/-- The bytes up to the first null byte are those of a text. -/
def Carries (bytes : Option (List UInt8)) (t : Text) : Prop :=
  ∃ l, bytes = some l ∧ l.takeWhile (· != 0) = Text.bytes t

theorem readText_eq_ok_iff {i : Input} {bytes : Option (List UInt8)} {t : Text} :
    readText i bytes = .ok t ↔ Carries bytes t := by
  cases bytes with
  | none => exact ⟨nofun, nofun⟩
  | some l =>
    rw [readText, decode_eq_ok_iff]
    exact ⟨fun h => ⟨l, rfl, h⟩, fun ⟨_, hl, h⟩ => Option.some.inj hl ▸ h⟩

/-- The bytes carry a JSON text that decodes as a request. -/
def Sends (request : Option (List UInt8)) (r : Request) : Prop :=
  ∃ t, Carries request t ∧ (Json.read? t).bind Request.ofJson? = some r

theorem Request.read_eq_ok_iff {explain : Text → Text} {request : Option (List UInt8)}
    {r : Request} : Request.read explain request = .ok r ↔ Sends request r := by
  unfold Request.read Sends
  simp only [← readText_eq_ok_iff (i := .request)]
  cases readText .request request with
  | error f => exact ⟨nofun, nofun⟩
  | ok t =>
    simp only [Except.ok.injEq, exists_eq_left', bind, Except.bind]
    cases (Json.read? t).bind ofJson? with
    | none => exact ⟨nofun, nofun⟩
    | some r' => simp only [Except.ok.injEq, Option.some.injEq]

theorem Sends.unique {request : Option (List UInt8)} {r s : Request} (hr : Sends request r)
    (hs : Sends request s) : r = s := by
  have hread : Request.read id request = .ok r := Request.read_eq_ok_iff.mpr hr
  exact Except.ok.inj (hread.symm.trans (Request.read_eq_ok_iff.mpr hs))

/-! ## Failures -/

theorem eq_of_decode_eq_error {i : Input} {bytes : List UInt8} {f : Failure}
    (h : decode i bytes = .error f) : f = .notUtf8 i := by
  unfold decode at h
  split at h
  · cases h
  · exact (Except.error.inj h).symm

theorem eq_of_readText_eq_error {i : Input} {bytes : Option (List UInt8)} {f : Failure}
    (h : readText i bytes = .error f) : f = .missing i ∨ f = .notUtf8 i := by
  cases bytes with
  | none => exact .inl (Except.error.inj h).symm
  | some l => exact .inr (eq_of_decode_eq_error h)

theorem Request.eq_of_read_eq_error {explain : Text → Text} {request : Option (List UInt8)}
    {f : Failure} (h : Request.read explain request = .error f) :
    f = .missing .request ∨ f = .notUtf8 .request ∨ ∃ more, f = .notRequest more := by
  unfold Request.read at h
  cases ht : readText .request request with
  | error g =>
    rw [ht] at h
    cases h
    exact (eq_of_readText_eq_error ht).imp_right .inl
  | ok t =>
    simp only [ht, bind, Except.bind] at h
    split at h
    · cases h
    · exact .inr (.inr ⟨_, (Except.error.inj h).symm⟩)

theorem Failure.exists_message_eq_cons {f : Failure} (h : f ≠ .nullInJson) :
    ∃ c rest, f.message = c :: rest ∧ c ≠ 'R' := by
  cases f with
  | missing | notUtf8 => exact ⟨'i', _, rfl, by decide⟩
  | notRequest => exact ⟨'F', _, rfl, by decide⟩
  | scrape e =>
    cases e with
    | overwrite => exact ⟨'\'', _, rfl, by decide⟩
    | base => exact ⟨'i', _, rfl, by decide⟩
  | nullInJson => contradiction

/-- No other failure is told by the text for a null character in the JSON. -/
theorem ofFailure_ne_nullInJson {f : Failure} (h : f ≠ .nullInJson) :
    Reply.ofFailure f ≠ .ofFailure .nullInJson := by
  intro he
  obtain ⟨c, rest, hm, hc⟩ := Failure.exists_message_eq_cons h
  have htext := Reply.error.inj he
  rw [hm, List.map_cons] at htext
  have hfirst : (if c = '\x00' then ' ' else c) = 'R' := (List.cons.inj htext).1
  split at hfirst
  · exact absurd hfirst (by decide)
  · exact hc hfirst

/-- Whatever the message, no null character is left in an error text. -/
theorem null_notMem_of_ofMessage_eq {message t : Text} (h : Reply.ofMessage message = .error t) :
    '\x00' ∉ t := by
  cases h
  intro hm
  obtain ⟨c, -, hc⟩ := List.mem_map.mp hm
  split at hc
  · cases hc
  · contradiction

example : Reply.ofMessage ['a', '\x00', 'b'] = .error ['a', ' ', 'b'] := by decide

/-- No text of a clear value is withheld. -/
theorem ofJson_render {j : Json} (h : j.Clear) : Reply.ofJson j.render = .json j.render :=
  if_neg h.render.null_notMem

/-- Rules are checked wherever they can be read, and what is said about them is never withheld. -/
theorem checkRules_eq_json_iff {rules : Option (List UInt8)} {t : Text} :
    checkRules rules = .json t ↔
      ∃ raw, Carries rules raw ∧ (summary (RuleText.compile raw)).render = t := by
  unfold checkRules
  simp only [← readText_eq_ok_iff (i := .rules)]
  cases readText .rules rules with
  | error f => exact ⟨nofun, nofun⟩
  | ok raw =>
    have hjson : Reply.ofExcept (summary ∘ RuleText.compile) (.ok raw) =
        .json (summary (RuleText.compile raw)).render := ofJson_render (clear_summary _)
    simp only [hjson, Reply.json.injEq, Except.ok.injEq, exists_eq_left']

/-! ## Calls -/

section

variable {σ : Type} (ask : Hub.Request → StateM σ Hub.Response) (clock : StateM σ Nat)
  (explain : Text → Text) (clients : Clients) (world : σ)

/-- The reply to a call in a world, where some hub clients are kept already. -/
def reply (html request : Option (List UInt8)) : Reply :=
  (((extract ask html request clock explain).run clients).run world).1.1

/-- The rules that a page has, or that the hub has for it when it is asked by the client that the
settings share. They are empty where there are none. -/
def foundRules (d : Document) (r : Request) : Text :=
  let client := (clients.get? r.settings.hub).getD (.of r.settings.hub)
  let search := resolveRules (Hub.Client.fetch ask clock) d r.address r.settings
  ((search.run client).run world).1.1.getD []

/-- The rules that a page is scraped by are those of the request, unless they are missing or
blank. -/
inductive GoesBy (d : Document) (r : Request) : Text → Prop where
  | own {rules : Text} (h : r.rules = some rules) (hne : Text.trim rules ≠ []) : GoesBy d r rules
  | found (h : ∀ rules, r.rules = some rules → Text.trim rules = []) :
    GoesBy d r (foundRules ask clock clients world d r)

theorem run_scrapeShared (d : Document) (r : Request) :
    (((scrapeShared ask clock d r).run clients).run world).1.1 =
      Page.scrape d r.address (foundRules ask clock clients world d r) r.settings := by
  unfold scrapeShared foundRules Pool.obtain
  dsimp only [StateT.run]
  cases clients.get? r.settings.hub with
  | none => rfl
  | some client => rfl

/-- A page is scraped by the rules that the call goes by, whatever the hub answers. -/
theorem exists_goesBy (html : Text) (r : Request) :
    ∃ rules, GoesBy ask clock clients world (.read html) r rules ∧
      (((scrape ask clock html r).run clients).run world).1.1 =
        Page.scrape (.read html) r.address rules r.settings := by
  unfold scrape
  cases ho : r.ownRules? with
  | some rules =>
    obtain ⟨hr, hne⟩ := Option.filter_eq_some_iff.mp ho
    exact ⟨rules, .own hr (by simpa using hne), rfl⟩
  | none =>
    refine ⟨_, .found fun rules hr => ?_, run_scrapeShared ask clock clients world _ r⟩
    simpa using Option.filter_eq_none_iff.mp ho rules hr

variable {html request : Option (List UInt8)}

theorem reply_of_readable {t : Text} {r : Request} (ht : Shows html t) (hr : Sends request r) :
    ∃ rules, GoesBy ask clock clients world (.read t) r rules ∧
      reply ask clock explain clients world html request = .ofExcept Page.toJson
        ((Page.scrape (.read t) r.address rules r.settings).mapError .scrape) := by
  obtain ⟨rules, hrules, hs⟩ := exists_goesBy ask clock clients world t r
  refine ⟨rules, hrules, ?_⟩
  unfold reply extract
  rw [← hs, readHtml_eq_ok_iff.mpr ht, Request.read_eq_ok_iff.mpr hr]
  rfl

theorem reply_of_unreadable (h : ∀ t r, Shows html t → ¬Sends request r) :
    ∃ f, f ≠ .nullInJson ∧ reply ask clock explain clients world html request = .ofFailure f := by
  unfold reply extract
  cases ht : readHtml html with
  | error f =>
    refine ⟨f, ?_, rfl⟩
    rw [eq_of_decode_eq_error ht]
    nofun
  | ok t =>
    cases hr : Request.read explain request with
    | error f =>
      refine ⟨f, ?_, rfl⟩
      rcases Request.eq_of_read_eq_error hr with rfl | rfl | ⟨more, rfl⟩ <;> nofun
    | ok r => exact absurd (Request.read_eq_ok_iff.mp hr) (h t r (readHtml_eq_ok_iff.mp ht))

/-- A call comes to a page by inputs that can be read and a base that can be used, or else to a
failure. -/
theorem reply_cases (html request : Option (List UInt8)) :
    (∃ t r rules page, Shows html t ∧ Sends request r ∧
      GoesBy ask clock clients world (.read t) r rules ∧
      Page.scrape (.read t) r.address rules r.settings = .ok page ∧
      reply ask clock explain clients world html request = .json page.toJson.render) ∨
    ∃ f, f ≠ .nullInJson ∧ reply ask clock explain clients world html request = .ofFailure f ∧
      ∀ t r, Shows html t → Sends request r → ¬r.settings.BaseReads := by
  by_cases h : ∃ t r, Shows html t ∧ Sends request r
  · obtain ⟨t, r, ht, hr⟩ := h
    obtain ⟨rules, hrules, hreply⟩ := reply_of_readable ask clock explain clients world ht hr
    cases hp : Page.scrape (.read t) r.address rules r.settings with
    | ok page =>
      rw [hp] at hreply
      have hjson := hreply.trans (ofJson_render page.clear_toJson)
      exact .inl ⟨t, r, rules, page, ht, hr, hrules, hp, hjson⟩
    | error e =>
      rw [hp] at hreply
      refine .inr ⟨.scrape e, nofun, hreply, fun t' r' _ hr' hb => ?_⟩
      obtain rfl := hr.unique hr'
      obtain ⟨page, hpage⟩ := Page.scrape_succeeds_iff.mpr (Settings.base_succeeds_iff.mpr hb)
      rw [hpage] at hp
      cases hp
  · obtain ⟨f, hf, hreply⟩ := reply_of_unreadable ask clock explain clients world
      fun t r ht hr => h ⟨t, r, ht, hr⟩
    exact .inr ⟨f, hf, hreply, fun t r ht hr => absurd ⟨t, r, ht, hr⟩ h⟩

/-- Every call gives either a JSON text or an error text. It gives JSON exactly where the HTML is
missing, empty or a text in UTF-8, the request can be read up to its first null byte and decodes,
and its base is absent, blank or a URL; the JSON is then that of the page scraped by the rules that
the call goes by. No text that is given out has a null byte in it, and none is withheld for one. -/
theorem reply_outcome (html request : Option (List UInt8)) :
    Xor (∃ t, reply ask clock explain clients world html request = .json t)
      (∃ t, reply ask clock explain clients world html request = .error t) ∧
    ((∃ t, reply ask clock explain clients world html request = .json t) ↔
      (html = none ∨ html = some [] ∨ ∃ t, html = some (Text.bytes t)) ∧
        ∃ r, Sends request r ∧ r.settings.BaseReads) ∧
    (∀ t, reply ask clock explain clients world html request = .json t →
      ∃ s r rules page, Shows html s ∧ Sends request r ∧
        GoesBy ask clock clients world (.read s) r rules ∧
        Page.scrape (.read s) r.address rules r.settings = .ok page ∧ t = page.toJson.render ∧
        0 ∉ Text.bytes t) ∧
    (∀ t, reply ask clock explain clients world html request = .error t → 0 ∉ Text.bytes t) ∧
    reply ask clock explain clients world html request ≠ .ofFailure .nullInJson := by
  rw [← exists_shows_iff]
  obtain ⟨s, r, rules, page, hs, hr, hrules, hp, hreply⟩ | ⟨f, hf, hreply, hbase⟩ :=
    reply_cases ask clock explain clients world html request
  · have hb : r.settings.BaseReads :=
      Settings.base_succeeds_iff.mp (Page.scrape_succeeds_iff.mp ⟨page, hp⟩)
    have hclear : 0 ∉ Text.bytes page.toJson.render := by
      rw [Text.zero_mem_bytes_iff]
      exact page.clear_toJson.render.null_notMem
    rw [hreply]
    refine ⟨.inl ⟨⟨_, rfl⟩, nofun⟩, iff_of_true ⟨_, rfl⟩ ⟨⟨s, hs⟩, r, hr, hb⟩, ?_, nofun, nofun⟩
    intro t ht
    exact ⟨s, r, rules, page, hs, hr, hrules, hp, (Reply.json.inj ht).symm,
      Reply.json.inj ht ▸ hclear⟩
  · rw [hreply]
    refine ⟨.inr ⟨⟨_, rfl⟩, nofun⟩, iff_of_false nofun ?_, nofun, ?_, ofFailure_ne_nullInJson hf⟩
    · rintro ⟨⟨s, hs⟩, r, hr, hb⟩
      exact hbase s r hs hr hb
    · intro t ht
      rw [Text.zero_mem_bytes_iff]
      exact null_notMem_of_ofMessage_eq ht

end

end Boundary
end PageRules
