import OracleIntake.Connection.State
import OracleIntake.Settings.Environment
import OracleIntake.Text.Quoted

/-!
# Describing a connection

The text of a connection for diagnostics: names and values of its parts between braces. The password is
redacted.
-/
namespace OracleIntake

namespace Description

/-- Parts with their names between braces, behind the name of the whole. -/
def record (name : String) (parts : List (String × String)) : String :=
  name ++ " \x7b " ++ ", ".intercalate (parts.map fun (part, text) => part ++ ": " ++ text) ++ " \x7d"

def optional : Option String → String
  | some text => "Some(" ++ text ++ ")"
  | none => "None"

def switch (b : Bool) : String := if b then "true" else "false"

def transport : Transport → String
  | .secure => "Secure"
  | .plain => "Plain"

def lifecycle : Lifecycle → String
  | .closed => "Closed"
  | .connecting => "Connecting"
  | .opened => "Open"
  | .failed => "Failed"

def backoff : Backoff → String
  | .linear => "Linear"
  | .exponential longest => record "Exponential" [("max_delay", longest.text)]

def retryPolicy (p : RetryPolicy) : String :=
  record "RetryPolicy"
    [("retry_count", toString p.retries), ("retry_delay", p.delay.text), ("backoff", backoff p.backoff)]

/-- The recorded texts, in ascending order of keys. -/
def recorded (texts : List (SettingsKey × String)) : String :=
  "\x7b" ++ ", ".intercalate (texts.map fun (key, s) => Text.quoted key.name ++ ": " ++ Text.quoted s) ++ "\x7d"

def settings (s : Settings) : String :=
  record "ConnectionConfig" [
    ("host", Text.quoted s.target.host),
    ("port", toString s.target.port.toNat),
    ("service_name", Text.quoted s.target.service),
    ("username", Text.quoted s.target.username),
    ("password", s.target.password.shown),
    ("transport_mode", transport s.target.transport),
    ("verify_identity", switch s.target.verify),
    ("connect_timeout", s.target.timeout.text),
    ("retry", retryPolicy s.retry),
    ("fallback_port", optional (s.fallbackPort.map fun port => toString port.toNat)),
    ("env_source", recorded s.recorded)]

end Description

/-- The connection in words; `id` is its name among all connections and `driver` the driver's name. -/
def Connection.description (id driver : String) (c : Connection) : String :=
  "ResilientConnection \x7b " ++ ", ".intercalate ([
    ("id", id),
    ("config", Description.settings c.settings),
    ("driver", Text.quoted driver),
    ("state", Description.lifecycle c.lifecycle),
    ("attempts", toString c.progress.attempts)].map fun (part, text) => part ++ ": " ++ text) ++ ", .. \x7d"

/-- A shared connection in words: nothing of it is told. -/
def SharedConnection.description : String := "ConnectionManager"

end OracleIntake
