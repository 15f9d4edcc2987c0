import Mathlib
import PageRules.Hub.Client

/-!
# Answers that a client keeps

A client calls a server that may answer otherwise in every call (`Call.respond`). While no call
outlives an answer, what the client knows of an address changes only with the first call that gets
an answer for it (`Call.Step`), and a run of calls is accounted for by its events alone
(`events_faithful`).
-/

namespace PageRules.Hub

/-- The page that a response gives for an address, or that there is none. -/
def Response.meaning (address : Text) : Response → Except FetchError (Option Text)
  | .page t => .ok (some t)
  | .refused => .ok none
  | .failed reason => .error ⟨address, reason⟩

theorem Response.address_of_meaning {address : Text} {r : Response} {e : FetchError}
    (h : r.meaning address = .error e) : e.address = address := by
  cases r with
  | page | refused => cases h
  | failed reason =>
    cases h
    rfl

/-- A call for the page at an address: how the server answers while the call lasts, and what the
clock shows when the call begins and when the server has answered. -/
structure Call where
  address : Text
  respond : Request → Response
  begun : Nat
  answered : Nat

namespace Call

/-- Sends a request to the server and records it. -/
def ask (call : Call) (r : Request) : StateM (List Request) Response := fun sent =>
  (call.respond r, sent ++ [r])

/-- The clock goes on when a request is answered. -/
def clock (call : Call) : StateM (List Request) Nat := fun sent =>
  (if sent.isEmpty then call.begun else call.answered, sent)

/-- The call lies in the time for which an answer of the moment `start` is kept. -/
structure Within (start : Nat) (call : Call) : Prop where
  start_le : start ≤ call.answered
  begun_lt : call.begun < start + lifetime
  answered_lt : call.answered < start + lifetime

end Call

/-- What a call says, and the requests that it sends. -/
structure Outcome where
  answer : Except FetchError (Option Text)
  sent : List Request

/-- A call by a client. -/
def Call.run (call : Call) (c : Client) : Outcome × Client :=
  let ((answer, after), sent) := ((Client.fetch call.ask call.clock call.address).run c).run []
  (⟨answer, sent⟩, after)

/-- A call in a run, with the client before and after it. -/
structure Event where
  call : Call
  outcome : Outcome
  before : Client
  after : Client

/-- The calls of a client, one after another. -/
def events (c : Client) : List Call → List Event
  | [] => []
  | call :: rest => ⟨call, (call.run c).1, c, (call.run c).2⟩ :: events (call.run c).2 rest

/-! ## What a client knows -/

namespace Client

variable {c : Client} {start now : Nat} {address other : Text} {page : Option Text}

/-- What a client has for an address, whatever its age. -/
def known? (c : Client) (address : Text) : Option (Option Text) :=
  (c.answers.lookup address).map Answer.page

/-- No answer is older than the moment `start`. -/
def Since (start : Nat) (c : Client) : Prop := ∀ e ∈ c.answers, start ≤ e.2.givenAt

theorem Since.isLive (h : c.Since start) (hn : now < start + lifetime) {e : Text × Answer}
    (he : e ∈ c.answers) : e.2.isLive now = true := by
  have hstart := h e he
  have hpos := lifetime_pos
  rw [Answer.isLive, decide_eq_true_iff]
  omega

/-- While no answer has aged, what a client answers is what it knows. -/
theorem Since.answer?_eq (h : c.Since start) (hn : now < start + lifetime) (address : Text) :
    c.answer? now address = c.known? address := by
  rw [answer?, known?]
  cases hl : c.answers.lookup address with
  | none => rfl
  | some a =>
    obtain ⟨before, after, he, -⟩ := List.lookup_eq_some_iff.mp hl
    have hlive : a.isLive now = true := h.isLive hn (e := (address, a)) (by simp [he])
    rw [Option.filter_some, if_pos hlive]

theorem lookup_filter {α : Type} {p : Text × α → Bool} {l : List (Text × α)} {key : Text}
    (h : ∀ e ∈ l, e.1 = key → p e = true) : (l.filter p).lookup key = l.lookup key := by
  induction l with
  | nil => rfl
  | cons e l ih =>
    obtain ⟨he, hl⟩ := List.forall_mem_cons.mp h
    by_cases hk : key = e.1
    · rw [List.filter_cons_of_pos (he hk.symm), List.lookup_cons, List.lookup_cons, hk,
        beq_self_eq_true]
    · have hne : (key == e.1) = false := beq_eq_false_iff_ne.mpr hk
      rw [List.lookup_cons, hne, ← ih hl, List.filter_cons]
      split
      · rw [List.lookup_cons, hne]
      · rfl

/-- A response is kept when it means an answer, and nothing is kept of a failure. -/
theorem receive_eq (c : Client) (now : Nat) (address : Text) (r : Response) :
    c.receive now address r = (r.meaning address,
      match r.meaning address with
      | .ok page => c.store now address page
      | .error _ => c) := by
  cases r <;> rfl

theorem known?_store_self (c : Client) (now : Nat) (address : Text) (page : Option Text) :
    (c.store now address page).known? address = some page := by
  rw [known?, store, List.lookup_cons_self]
  rfl

/-- Keeping an answer drops no other answer that lives. -/
theorem Since.known?_store_of_ne (h : c.Since start) (hn : now < start + lifetime)
    (hne : other ≠ address) : (c.store now address page).known? other = c.known? other := by
  rw [known?, known?, store, List.lookup_cons, beq_eq_false_iff_ne.mpr hne]
  refine congrArg _ (lookup_filter fun e he hkey => ?_)
  rw [h.isLive hn he, hkey, decide_eq_true hne]
  rfl

theorem Since.store (h : c.Since start) (hn : start ≤ now) :
    (c.store now address page).Since start := by
  intro e he
  rcases List.mem_cons.mp he with rfl | he
  · exact hn
  · exact h e (List.mem_filter.mp he).1

end Client

/-! ## Calls -/

namespace Call

variable {call : Call} {c : Client} {start : Nat} {page : Option Text}

/-- The clock is read before anything is sent. -/
theorem run_fetch (call : Call) (c : Client) :
    ((Client.fetch call.ask call.clock call.address).run c).run [] =
      match c.answer? call.begun call.address with
      | some page => ((.ok page, c), [])
      | none =>
        (c.receive call.answered call.address (call.respond (c.request call.address)),
          [c.request call.address]) := by
  change StateT.run (match c.answer? call.begun call.address with
    | some page => pure (.ok page, c)
    | none => do
      let response ← call.ask (c.request call.address)
      return c.receive (← call.clock) call.address response : StateM (List Request) _) [] = _
  cases c.answer? call.begun call.address <;> rfl

/-- A call whose answer is known sends nothing and changes nothing. -/
theorem run_of_answer? (h : c.answer? call.begun call.address = some page) :
    call.run c = (⟨.ok page, []⟩, c) := by
  rw [run, run_fetch, h]

/-- Any other call sends one request, and what comes back decides what is known then. -/
theorem run_of_no_answer? (h : c.answer? call.begun call.address = none) :
    call.run c = (⟨(call.respond (c.request call.address)).meaning call.address,
      [c.request call.address]⟩,
      (c.receive call.answered call.address (call.respond (c.request call.address))).2) := by
  rw [run, run_fetch, h]
  cases call.respond (c.request call.address) <;> rfl

/-- What a call does: it gives what is known of its address, or it asks the server and from then on
knows what the server gave. -/
inductive Step (call : Call) (c : Client) : Outcome → Client → Prop
  | kept {page : Option Text} (hk : c.known? call.address = some page) :
    Step call c ⟨.ok page, []⟩ c
  | asked {answer : Except FetchError (Option Text)} {after : Client}
    (ha : answer = (call.respond (c.request call.address)).meaning call.address)
    (hk : c.known? call.address = none) (hrequest : after.request = c.request)
    (hafter : after.known? call.address = answer.toOption)
    (hothers : ∀ other, other ≠ call.address → after.known? other = c.known? other)
    (hfailed : ∀ e, answer = .error e → e.address = call.address ∧ after = c) :
    Step call c ⟨answer, [c.request call.address]⟩ after

/-- A call within the lifetime of all answers is one step. -/
theorem step_run (hc : c.Since start) (h : call.Within start) :
    call.Step c (call.run c).1 (call.run c).2 ∧ (call.run c).2.Since start := by
  have hanswer := hc.answer?_eq h.begun_lt call.address
  cases hk : c.known? call.address with
  | some page =>
    rw [run_of_answer? (hanswer.trans hk)]
    exact ⟨.kept hk, hc⟩
  | none =>
    rw [run_of_no_answer? (hanswer.trans hk), Client.receive_eq]
    cases hm : (call.respond (c.request call.address)).meaning call.address with
    | error e =>
      refine ⟨.asked hm.symm hk rfl hk (fun _ _ => rfl) fun e' he => ?_, hc⟩
      cases he
      exact ⟨Response.address_of_meaning hm, rfl⟩
    | ok page =>
      refine ⟨.asked hm.symm hk rfl (c.known?_store_self ..) ?_ nofun, hc.store h.start_le⟩
      exact fun other hne => hc.known?_store_of_ne h.answered_lt hne

end Call

/-! ## Runs -/

/-- The client knows the answers of the events before it, and sends the requests that the client
`first` would. -/
structure Reflects (first : Client) (earlier : List Event) (c : Client) : Prop where
  known_iff : ∀ address page, c.known? address = some page ↔
    ∃ p ∈ earlier, p.call.address = address ∧ p.outcome.answer = .ok page
  request_eq : c.request = first.request

/-- The events before it account for a call: it asks the server where none of them has an answer for
its address, and else gives that answer and asks nothing. A failed call changes nothing. -/
structure Event.Faithful (first : Client) (earlier : List Event) (e : Event) : Prop where
  asked : (∀ p ∈ earlier, p.call.address = e.call.address → ∃ err, p.outcome.answer = .error err) →
    e.outcome = ⟨(e.call.respond (first.request e.call.address)).meaning e.call.address,
      [first.request e.call.address]⟩
  kept : ∀ p ∈ earlier, p.call.address = e.call.address → ∀ page, p.outcome.answer = .ok page →
    e.outcome = ⟨.ok page, []⟩
  failed : ∀ err, e.outcome.answer = .error err →
    err.address = e.call.address ∧ e.after = e.before

section

variable {first c after : Client} {earlier : List Event} {call : Call} {outcome : Outcome}
  {start : Nat}

/-- A step adds to what is known what it learns, and nothing else. -/
theorem Reflects.step (hr : Reflects first earlier c) (h : call.Step c outcome after) :
    Reflects first (earlier ++ [⟨call, outcome, c, after⟩]) after := by
  cases h with
  | @kept page hk =>
    refine ⟨fun address other => ?_, hr.request_eq⟩
    rw [hr.known_iff]
    constructor
    · rintro ⟨p, hp, hanswer⟩
      exact ⟨p, List.mem_append_left _ hp, hanswer⟩
    · rintro ⟨p, hp, rfl, hanswer⟩
      rcases List.mem_append.mp hp with hp | hp
      · exact ⟨p, hp, rfl, hanswer⟩
      · cases List.mem_singleton.mp hp
        cases hanswer
        exact (hr.known_iff _ _).mp hk
  | @asked answer after ha hk hrequest hafter hothers hfailed =>
    refine ⟨fun address page => ?_, hrequest.trans hr.request_eq⟩
    constructor
    · intro hknown
      by_cases haddress : address = call.address
      · subst haddress
        have hanswer : answer = .ok page := by
          rw [hafter] at hknown
          cases answer <;> cases hknown
          rfl
        exact ⟨_, List.mem_append_right _ (List.mem_singleton_self _), rfl, hanswer⟩
      · rw [hothers address haddress] at hknown
        obtain ⟨p, hp, hanswer⟩ := (hr.known_iff _ _).mp hknown
        exact ⟨p, List.mem_append_left _ hp, hanswer⟩
    · rintro ⟨p, hp, rfl, hanswer⟩
      rcases List.mem_append.mp hp with hp | hp
      · have hknown := (hr.known_iff _ _).mpr ⟨p, hp, rfl, hanswer⟩
        have hne : p.call.address ≠ call.address := by
          intro heq
          rw [heq, hk] at hknown
          cases hknown
        rw [hothers _ hne, hknown]
      · cases List.mem_singleton.mp hp
        cases hanswer
        exact hafter

theorem Reflects.faithful (hr : Reflects first earlier c) (h : call.Step c outcome after) :
    Event.Faithful first earlier ⟨call, outcome, c, after⟩ := by
  cases h with
  | @kept page hk =>
    obtain ⟨p, hp, haddress, hanswer⟩ := (hr.known_iff _ _).mp hk
    refine ⟨fun hnone => ?_, fun q hq hsame other hother => ?_, nofun⟩
    · obtain ⟨err, herr⟩ := hnone p hp haddress
      cases hanswer.symm.trans herr
    · have hknown := (hr.known_iff _ _).mpr ⟨q, hq, hsame, hother⟩
      cases hk.symm.trans hknown
      rfl
  | asked ha hk hrequest hafter hothers hfailed =>
    refine ⟨fun _ => ?_, fun q hq hsame page hpage => ?_, hfailed⟩
    · rw [ha, hr.request_eq]
    · have hknown := (hr.known_iff _ _).mpr ⟨q, hq, hsame, hpage⟩
      cases hk.symm.trans hknown

/-- Every event of a run is faithful to those before it. By induction on the calls. -/
theorem faithful_events (calls : List Call) (hc : c.Since start)
    (hr : Reflects first earlier c) (h : ∀ call ∈ calls, call.Within start) :
    ∀ mid e later, events c calls = mid ++ e :: later → e.Faithful first (earlier ++ mid) := by
  induction calls generalizing c earlier with
  | nil =>
    intro mid e later he
    simp [events] at he
  | cons call calls ih =>
    obtain ⟨hcall, hcalls⟩ := List.forall_mem_cons.mp h
    obtain ⟨hstep, hsince⟩ := call.step_run hc hcall
    intro mid e later he
    cases mid with
    | nil =>
      cases he
      rw [List.append_nil]
      exact hr.faithful hstep
    | cons head mid =>
      obtain ⟨hhead, hrest⟩ := List.cons.inj he
      rw [← hhead, List.append_cons]
      exact ih hsince (hr.step hstep) hcalls mid e later hrest

end

/-! ## One address among others -/

/-- The clients know the same of an address and send the same requests. -/
structure AgreeAt (address : Text) (c d : Client) : Prop where
  known : c.known? address = d.known? address
  request : c.request = d.request

namespace AgreeAt

variable {address : Text} {c d after after' : Client} {call : Call} {outcome outcome' : Outcome}
  {start : Nat}

/-- Calls for one address have one outcome for clients that agree on it. -/
theorem step_same (h : AgreeAt call.address c d) (hc : call.Step c outcome after)
    (hd : call.Step d outcome' after') :
    outcome = outcome' ∧ AgreeAt call.address after after' := by
  cases hc with
  | kept hk =>
    cases hd with
    | kept hk' =>
      cases hk.symm.trans (h.known.trans hk')
      exact ⟨rfl, h⟩
    | asked _ hk' => cases hk.symm.trans (h.known.trans hk')
  | asked ha hk hrequest hafter =>
    cases hd with
    | kept hk' => cases hk.symm.trans (h.known.trans hk')
    | asked ha' _ hrequest' hafter' =>
      rw [← h.request] at ha'
      cases ha.trans ha'.symm
      refine ⟨by rw [h.request], hafter.trans hafter'.symm, ?_⟩
      rw [hrequest, hrequest', h.request]

/-- A call for another address does not disturb what two clients agree on. -/
theorem step_other (h : AgreeAt address c d) (hne : address ≠ call.address)
    (hc : call.Step c outcome after) : AgreeAt address after d := by
  cases hc with
  | kept => exact h
  | asked _ _ hrequest _ hothers =>
    exact ⟨(hothers address hne).trans h.known, hrequest.trans h.request⟩

/-- Calls for other addresses make no difference to the calls for an address. -/
theorem outcomes_eq (h : AgreeAt address c d) (hc : c.Since start) (hd : d.Since start)
    (calls : List Call) (hcalls : ∀ call ∈ calls, call.Within start) :
    ((events c calls).filter (·.call.address = address)).map Event.outcome =
      (events d (calls.filter (·.address = address))).map Event.outcome := by
  induction calls generalizing c d with
  | nil => rfl
  | cons call calls ih =>
    obtain ⟨hcall, hrest⟩ := List.forall_mem_cons.mp hcalls
    obtain ⟨hstep, hsince⟩ := call.step_run hc hcall
    rw [events]
    by_cases haddress : call.address = address
    · subst haddress
      obtain ⟨hstep', hsince'⟩ := call.step_run hd hcall
      obtain ⟨houtcome, hagree⟩ := h.step_same hstep hstep'
      rw [List.filter_cons_of_pos (by simp), List.filter_cons_of_pos (by simp), events,
        List.map_cons, List.map_cons, ih hagree hsince hsince' hrest, houtcome]
    · rw [List.filter_cons_of_neg (by simpa using haddress),
        List.filter_cons_of_neg (by simpa using haddress)]
      exact ih (h.step_other (Ne.symm haddress) hstep) hsince hd hrest

end AgreeAt

/-! ## A client from its start -/

theorem since_of (settings : HubSettings) (start : Nat) : (Client.of settings).Since start := by
  intro e he
  cases he

theorem reflects_of (settings : HubSettings) :
    Reflects (.of settings) [] (.of settings) where
  known_iff address page := by
    simp [Client.known?, Client.of]
  request_eq := rfl

/-- While no call outlives an answer, every call of a client is accounted for by the calls before
it, and by those for the same address alone. -/
theorem events_faithful (settings : HubSettings) {start : Nat} {calls : List Call}
    (h : ∀ call ∈ calls, call.Within start) :
    (∀ earlier e later, events (.of settings) calls = earlier ++ e :: later →
      e.Faithful (.of settings) earlier) ∧
    ∀ address, ((events (.of settings) calls).filter (·.call.address = address)).map Event.outcome =
      (events (.of settings) (calls.filter (·.address = address))).map Event.outcome := by
  have hsince := since_of settings start
  constructor
  · exact faithful_events calls hsince (reflects_of settings) h
  · intro address
    exact AgreeAt.outcomes_eq ⟨rfl, rfl⟩ hsince hsince calls h

/-- A server that fails first, refuses one address and has a page at the other for a while. -/
def restlessCalls : List Call :=
  [⟨['a'], fun _ => .failed [], 0, 1⟩, ⟨['b'], fun _ => .refused, 2, 3⟩,
    ⟨['a'], fun _ => .page ['x'], 4, 5⟩, ⟨['b'], fun _ => .page ['y'], 6, 7⟩,
    ⟨['a'], fun _ => .failed [], 8, 9⟩]

theorem events_faithful_restlessCalls :
    (∀ call ∈ restlessCalls, call.Within 0) ∧
      (events (.of {}) restlessCalls).map (·.outcome.sent.length) = [1, 1, 1, 0, 0] ∧
      ((events (.of {}) restlessCalls).filter (·.call.address = ['a'])).map Event.outcome =
        (events (.of {}) (restlessCalls.filter (·.address = ['a']))).map Event.outcome ∧
      ∃ earlier e, events (.of {}) restlessCalls = earlier ++ [e] ∧
        e.outcome = ⟨.ok (some ['x']), []⟩ := by
  have h : ∀ call ∈ restlessCalls, call.Within 0 := by
    intro call hcall
    simp only [restlessCalls, List.mem_cons, List.not_mem_nil, or_false] at hcall
    rcases hcall with rfl | rfl | rfl | rfl | rfl <;> exact ⟨by decide, by decide, by decide⟩
  obtain ⟨hfaithful, halone⟩ := events_faithful {} h
  refine ⟨h, rfl, halone ['a'], (events (.of {}) restlessCalls).take 4, _, rfl, ?_⟩
  have hlast := hfaithful ((events (.of {}) restlessCalls).take 4) _ [] rfl
  exact hlast.kept _ (List.getElem_mem (by decide : 2 < 4)) rfl (some ['x']) rfl

end PageRules.Hub
