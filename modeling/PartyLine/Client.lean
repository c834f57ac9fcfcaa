import PartyLine.Logging
import PartyLine.Registry
import PartyLine.Settings.Load

/-!
# Clients

The entry point of consumers: a client loads its settings, starts logging and
connects through its registry.

* `Client.load`: the settings of a new client, and the logger then installed;
* `ClientError`: what may keep it from loading or connecting.
-/

namespace PartyLine

/-- Why the ground of a client could not be laid. -/
inductive SettingsError where
  | load (error : Settings.LoadError)
  | logging (detail : String)
  deriving DecidableEq

/-- The wording of an error. -/
def SettingsError.message : SettingsError → String
  | load e => "Configuration loading failed: " ++ e.message
  | logging detail => "Logging setup failed: " ++ detail

/-- The errors of a client. -/
inductive ClientError where
  | settings (error : SettingsError)
  | connect (error : ConnectError)
  deriving DecidableEq

/-- The wording of an error. -/
def ClientError.message : ClientError → String
  | settings e => "Configuration loading failed: " ++ e.message
  | connect e => "Connect failed: " ++ e.message

namespace Client

/-- The variable whose directives take the place of the configured level. -/
def logVariable : String := "RUST_LOG"

/-- Loads the settings and installs a logger for their level. A logger that is
    there already stays, and loading succeeds all the same. -/
def load (d : Configuration.Directory) (env : Configuration.Environment)
    (logger : Logging.Logger) (arrangement : Configuration.Arrangement := .listed) :
    Except ClientError Settings × Logging.Logger :=
  match Settings.load d env arrangement with
  | .ok s => (.ok s, (Logging.install logger s.logLevel (env.lookup logVariable)).2)
  | .error e => (.error (.settings (.load e)), logger)

end Client

end PartyLine
