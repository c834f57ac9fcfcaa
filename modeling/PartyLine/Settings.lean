/-!
# Settings

What a client is configured with: how much it logs, which engine it talks to,
how its connections behave and what becomes of channels that have ended.
-/

namespace PartyLine

/-- What connecting to an endpoint does whose channel has ended. -/
inductive TerminatedPolicy where
  /-- Hands back the ended channel. -/
  | reuse
  /-- Opens a new connection in its place. -/
  | replace
  deriving DecidableEq, Inhabited

namespace TerminatedPolicy

/-- The name of a policy in a configuration. -/
def name : TerminatedPolicy → String
  | reuse => "reuse"
  | replace => "replace"

/-- The label of a policy. -/
def label : TerminatedPolicy → String
  | reuse => "Reuse"
  | replace => "Replace"

/-- The policy of that name. -/
def ofName? (name : String) : Option TerminatedPolicy :=
  [reuse, replace].find? (·.name == name)

end TerminatedPolicy

/-- The limits of a WebSocket connection; without one the default limit holds. -/
structure WebSocketOptions where
  maxMessageSize : Option Nat := none
  maxFrameSize : Option Nat := none
  acceptUnmaskedFrames : Bool := false
  deriving DecidableEq, Inhabited

/-- How connections are made; times are in milliseconds. -/
structure TransportSettings where
  connectTimeout : Nat := 20000
  webSocket : WebSocketOptions := {}
  deriving DecidableEq, Inhabited

/-- All settings of a client. -/
structure Settings where
  logLevel : String := "info"
  url : String := "ws://localhost:4040"
  transport : TransportSettings := {}
  onTerminated : TerminatedPolicy := .reuse
  deriving DecidableEq, Inhabited

/-- What one connection is made with. -/
structure ConnectParams where
  url : String
  connectTimeout : Nat := ({} : TransportSettings).connectTimeout
  webSocket : WebSocketOptions := {}
  deriving DecidableEq, Inhabited

/-- The parameters of a connection under some settings. -/
def ConnectParams.ofSettings (url : String) (s : TransportSettings) : ConnectParams :=
  { url, connectTimeout := s.connectTimeout, webSocket := s.webSocket }

end PartyLine
