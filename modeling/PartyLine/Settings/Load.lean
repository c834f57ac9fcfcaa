import PartyLine.Configuration.File
import PartyLine.Configuration.Reading
import PartyLine.Settings

/-!
# Loading settings

The settings of a client come from three layers: defaults, a file and the
environment, of which the later one decides. A file alone is enough too. The
entries of a file are laid one over the other in an order that is not the file's
but that of the map in which the loader has them, so that it is given beside the file.

* `Settings.ofConfiguration`: the settings that a configuration means;
* `Settings.load`, `Settings.loadFrom`: the settings of the layers, of a file.
-/

namespace PartyLine

namespace Settings

open PartyLine.Configuration

/-- Why no settings were loaded. -/
inductive LoadError where
  | file (error : FileError)
  | misfit (error : ReadError)
  deriving DecidableEq

/-- The wording of an error. -/
def LoadError.message : LoadError → String
  | file e => e.message
  | misfit e => e.message

/-- The level of logging in its section. -/
def readLogLevel (v : Configuration) : Except ReadError String := do
  v.checkSection "GlobalConfig"
  v.readField 0 "log_level" ({} : Settings).logLevel readText

/-- The URL in its section. -/
def readUrl (v : Configuration) : Except ReadError String := do
  v.checkSection "EndpointConfig"
  v.readField 0 "url" ({} : Settings).url readText

/-- The limits of a connection in their section. -/
def readWebSocket (v : Configuration) : Except ReadError WebSocketOptions := do
  v.checkSection "WebSocketConfig"
  return {
    maxMessageSize := ← v.readField 0 "max_message_size" none readOptional
    maxFrameSize := ← v.readField 1 "max_frame_size" none readOptional
    acceptUnmaskedFrames := ← v.readField 2 "accept_unmasked_frames" false readFlag }

/-- How connections are made, in its section. -/
def readTransport (v : Configuration) : Except ReadError TransportSettings := do
  v.checkSection "TransportConfig"
  let default : TransportSettings := {}
  return {
    connectTimeout := ← v.readField 0 "connect_timeout_ms" default.connectTimeout readNatural
    webSocket := ← v.readSection 1 "websocket" default.webSocket readWebSocket }

/-- The policy in its section. -/
def readOnTerminated (v : Configuration) : Except ReadError TerminatedPolicy := do
  v.checkSection "ChannelConfig"
  v.readField 0 "on_terminated" ({} : Settings).onTerminated
    (readChoice "TerminatedPolicy" TerminatedPolicy.ofName?)

/-- The settings that a configuration means. -/
def ofConfiguration (v : Configuration) : Except ReadError Settings := do
  let default : Settings := {}
  return {
    logLevel := ← v.readSection 0 "global" default.logLevel readLogLevel
    url := ← v.readSection 1 "endpoint" default.url readUrl
    transport := ← v.readSection 2 "transport" default.transport readTransport
    onTerminated := ← v.readSection 3 "channel" default.onTerminated readOnTerminated }

/-- The configuration before any layer. -/
def empty : Configuration := .table none .nil

/-- The lowest layer. -/
def defaults : List (String × Configuration) := [
  ("global.log_level", .scalar none (.text ({} : Settings).logLevel)),
  ("endpoint.url", .scalar none (.text ({} : Settings).url))]

/-- The path of the settings' file in the working directory, without extension. -/
def fileStem : String := "relay"

/-- The settings of some layers, the later ones over the earlier ones. -/
def ofLayers (layers : List (List (String × Configuration))) : Except LoadError Settings :=
  (ofConfiguration (layers.foldl withLayer empty)).mapError .misfit

/-- The settings of the defaults, the file in the working directory, if there is
    one, and the environment. -/
def load (d : Directory) (env : Environment) (arrangement : Arrangement := .listed) :
    Except LoadError Settings := do
  let file ← (d.loadIfThere fileStem).mapError .file
  ofLayers [defaults, arrangement.order file, env.layer]

/-- The settings of the file that a path leads to. -/
def loadFrom (d : Directory) (path : String) (arrangement : Arrangement := .listed) :
    Except LoadError Settings := do
  let file ← (d.load path).mapError .file
  ofLayers [arrangement.order file]

end Settings

end PartyLine
