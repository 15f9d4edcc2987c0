import PageRules.Settings

/-! A client of a hub. It asks for each address until it gets an answer, and keeps the answer for an
hour, also when it is that there is nothing. -/

namespace PageRules.Hub

structure Request where
  address : Text
  accept : Text
  userAgent : Text
  deriving DecidableEq

/-- What comes of a request. -/
inductive Response where
  | page (t : Text)
  /-- There is no page. -/
  | refused
  | failed (reason : Text)
  deriving DecidableEq

/-- The response of a server by its status code. One without content has an empty page. -/
def Response.ofStatus (status : Nat) (body : Text) : Response :=
  if status = 204 then .page []
  else if 200 ≤ status && status < 300 then .page body
  else .refused

structure FetchError where
  address : Text
  reason : Text
  deriving DecidableEq

def FetchError.message (e : FetchError) : Text :=
  "failed to fetch ".toList ++ e.address ++ [':', ' '] ++ e.reason

/-- How long an answer is kept, in nanoseconds. -/
def lifetime : Nat := 3600 * 1000000000

theorem lifetime_pos : 0 < lifetime := by decide

/-- What a server had at an address, and when it said so. -/
structure Answer where
  page : Option Text
  givenAt : Nat
  deriving DecidableEq

/-- The answer has not outlived its time. -/
def Answer.isLive (a : Answer) (now : Nat) : Bool := now - a.givenAt < lifetime

structure Client where
  userAgent : Text
  /-- The answers by address. -/
  answers : List (Text × Answer) := []
  deriving DecidableEq

namespace Client

def of (settings : HubSettings) : Client := { userAgent := settings.userAgent }

def request (c : Client) (address : Text) : Request where
  address := address
  accept := "text/plain".toList
  userAgent := c.userAgent

/-- The answer kept for an address, while it lives. -/
def answer? (c : Client) (now : Nat) (address : Text) : Option (Option Text) :=
  ((c.answers.lookup address).filter (·.isLive now)).map Answer.page

/-- Keeps an answer in place of an older one. Answers that have outlived their time go. -/
def store (c : Client) (now : Nat) (address : Text) (page : Option Text) : Client :=
  { c with answers := (address, ⟨page, now⟩) ::
      c.answers.filter fun e => e.1 ≠ address && e.2.isLive now }

/-- The client after a response, and what it says about the address. -/
def receive (c : Client) (now : Nat) (address : Text) :
    Response → Except FetchError (Option Text) × Client
  | .page t => (.ok (some t), c.store now address (some t))
  | .refused => (.ok none, c.store now address none)
  | .failed reason => (.error ⟨address, reason⟩, c)

/-- The page at an address, if there is one. A request goes out only for an address that has no
living answer. The clock stands still unless another is given. -/
def fetch {m : Type → Type} [Monad m] (ask : Request → m Response) (clock : m Nat := pure 0)
    (address : Text) : StateT Client m (Except FetchError (Option Text)) := fun c => do
  match c.answer? (← clock) address with
  | some page => return (.ok page, c)
  | none =>
    let response ← ask (c.request address)
    return c.receive (← clock) address response

@[simp] theorem store_userAgent (c : Client) (now : Nat) (address : Text) (page : Option Text) :
    (c.store now address page).userAgent = c.userAgent := rfl

@[simp] theorem request_store (c : Client) (now : Nat) (address : Text) (page : Option Text) :
    (c.store now address page).request = c.request := rfl

/-- A failure leaves the client as it was. -/
@[simp] theorem receive_failed (c : Client) (now : Nat) (address reason : Text) :
    c.receive now address (.failed reason) = (.error ⟨address, reason⟩, c) := rfl

end Client
end PageRules.Hub
