import PartyLine.Channel
import PartyLine.Transport.Address
import PartyLine.WebSocket.Failure

/-!
# Registry of channels

The registry keeps one channel per endpoint. Connecting hands back the channel
of an endpoint or opens it on first use; a channel that has ended is handed back
or replaced, as the policy says. Channels are known by their place in the order
of their opening.

* `Registry.decision`: whether connecting hands a channel back or opens one.
-/

namespace PartyLine

/-- Why connecting gives no channel. -/
inductive ConnectError where
  | emptyUrl
  | noActorSystem
  deriving DecidableEq

/-- The wording of an error. -/
def ConnectError.message : ConnectError → String
  | emptyUrl => "Endpoint URL must not be empty"
  | noActorSystem =>
      "No actix arbiter on this thread; connect must be called from a thread " ++
        "owned by an actix System"

/-- Whether there is a transport for a URL; its scheme decides. -/
def createTransport (url : String) : Except TransportError Unit :=
  if ['w', 's', ':', '/', '/'].isPrefixOf url.toList ∨
      ['w', 's', 's', ':', '/', '/'].isPrefixOf url.toList then .ok ()
  else .error (.unsupportedScheme url)

/-- The registered channels by URL and what becomes of ended ones. -/
structure Registry where
  policy : TerminatedPolicy := .reuse
  entries : List (String × Nat) := []
  deriving DecidableEq

namespace Registry

/-- The channel registered for a URL. -/
def find? (r : Registry) (url : String) : Option Nat := r.entries.lookup url

/-- Registers a channel for a URL in the place of the one before. -/
def insert (r : Registry) (url : String) (channel : Nat) : Registry :=
  { r with entries := r.entries.filter (·.1 != url) ++ [(url, channel)] }

/-- The URLs in increasing order. -/
def urls (r : Registry) : List String := (r.entries.map (·.1)).mergeSort (· ≤ ·)

/-- The number of registered channels. -/
def size (r : Registry) : Nat := r.entries.length

/-- The registry as a label shows it. -/
def label (r : Registry) : String :=
  "ConnectionManager \x7b urls: [" ++ ", ".intercalate (r.urls.map Text.quoted) ++
    "], on_terminated: " ++ r.policy.label ++ ", .. \x7d"

/-- What connecting comes to. -/
inductive Decision where
  | reuse (channel : Nat)
  | create
  deriving DecidableEq

/-- Whether a channel for a URL is there or has to be opened, given which
    channels have ended and whether actors can be started here. -/
def decision (r : Registry) (url : String) (ended : Nat → Bool) (hasSystem : Bool) :
    Except ConnectError Decision :=
  if url.isEmpty then .error .emptyUrl
  else
    match (r.find? url).filter fun i => !(ended i && r.policy == .replace) with
    | some i => .ok (.reuse i)
    | none => if hasSystem then .ok .create else .error .noActorSystem

end Registry

end PartyLine
