import OracleIntake.Bindings
import OracleIntake.Fault
import OracleIntake.Settings.Basic

/-!
# Settings in an environment

Settings are read from texts under fixed keys and written back to them. Ten keys are required; a missing one
is told before anything else. Blanks around a text do not count, except in a password, and a blank optional
text counts as absent. The texts that settings were read from are recorded, so that writing gives them back
as they were; all else is written in one canonical spelling, and a password never.
-/
namespace OracleIntake

abbrev Environment := Bindings String

namespace SettingsKey

def name : SettingsKey → String
  | host => "ORACLE_HOST"
  | port => "ORACLE_PORT"
  | serviceName => "ORACLE_SERVICE_NAME"
  | username => "ORACLE_USERNAME"
  | password => "ORACLE_PASSWORD"
  | protocol => "ORACLE_PROTOCOL"
  | verifyIdentity => "ORACLE_SSL_SERVER_DN_MATCH"
  | connectTimeout => "ORACLE_CONNECT_TIMEOUT"
  | retryCount => "ORACLE_RETRY_COUNT"
  | retryDelay => "ORACLE_RETRY_DELAY"
  | fallbackPort => "ORACLE_FALLBACK_PORT"
  | retryBackoff => "ORACLE_RETRY_BACKOFF"
  | retryMaxDelay => "ORACLE_RETRY_MAX_DELAY"

/-- The keys that must be there, in the order in which they are looked for. -/
def required : List SettingsKey :=
  [host, port, serviceName, username, password, protocol, verifyIdentity, connectTimeout, retryCount,
    retryDelay]

/-- All keys in ascending order of their names. -/
def ascending : List SettingsKey :=
  [connectTimeout, fallbackPort, host, password, port, protocol, retryBackoff, retryCount, retryDelay,
    retryMaxDelay, serviceName, verifyIdentity, username]

theorem mem_ascending (k : SettingsKey) : k ∈ ascending := by cases k <;> decide

end SettingsKey

namespace Environment

def text? (env : Environment) (key : SettingsKey) : Option String := env.value? key.name

/-- The text under a key without blanks around it; nothing if it is absent. -/
def text (env : Environment) (key : SettingsKey) : String := Text.trimmed ((env.text? key).getD "")

/-- The text under an optional key without blanks around it, if it is there and not blank. -/
def optional? (env : Environment) (key : SettingsKey) : Option String :=
  ((env.text? key).map Text.trimmed).filter (!·.isEmpty)

end Environment

namespace Settings

/-- A port number from 1 to 65535. -/
def readPort (key : SettingsKey) (s : String) : Except SettingsFault UInt16 :=
  match Numeral.natural? 65535 s.toList with
  | some (n + 1) => .ok (UInt16.ofNat (n + 1))
  | _ => .error (.notPort key.name s)

def readTransport (key : SettingsKey) (s : String) : Except SettingsFault Transport :=
  match Transport.read? s with
  | some t => .ok t
  | none => .error (.notTransport key.name s)

def onWords : List String := ["true", "1", "yes", "on"]

def offWords : List String := ["false", "0", "no", "off"]

/-- A yes or a no in any case. -/
def readSwitch (key : SettingsKey) (s : String) : Except SettingsFault Bool :=
  if Text.lowered s ∈ onWords then .ok true
  else if Text.lowered s ∈ offWords then .ok false
  else .error (.notSwitch key.name s)

def readSeconds (key : SettingsKey) (s : String) : Except SettingsFault Duration :=
  match Duration.readSeconds? s with
  | some d => .ok d
  | none => .error (.notSeconds key.name s)

def readInteger (key : SettingsKey) (s : String) : Except SettingsFault Int :=
  match Numeral.integer? s.toList with
  | some i => .ok i
  | none => .error (.notInteger key.name)

def readFallbackPort (env : Environment) : Except SettingsFault (Option UInt16) :=
  match env.optional? .fallbackPort with
  | none => .ok none
  | some s => (readPort .fallbackPort s).map some

/-- The greatest wait: the one written, or eight times the first wait. -/
def readMaxDelay (env : Environment) (delay : Duration) : Except SettingsFault Duration :=
  match env.optional? .retryMaxDelay with
  | none => .ok (delay.times 8)
  | some s => readSeconds .retryMaxDelay s

/-- The backoff. The greatest wait is read only where it counts. -/
def readBackoff (env : Environment) (delay : Duration) : Except SettingsFault Backoff :=
  match (env.optional? .retryBackoff).map Text.lowered with
  | none => .ok .linear
  | some word =>
    if word = "linear" then .ok .linear
    else if word = "exponential" then (readMaxDelay env delay).map .exponential
    else .error (.notBackoff SettingsKey.retryBackoff.name word)

/-- The draft that an environment with all required keys writes. -/
def readDraft (env : Environment) : Except SettingsFault Draft := do
  let port ← readPort .port (env.text .port)
  let transport ← readTransport .protocol (env.text .protocol)
  let verify ← readSwitch .verifyIdentity (env.text .verifyIdentity)
  let timeout ← readSeconds .connectTimeout (env.text .connectTimeout)
  let retries ← readInteger .retryCount (env.text .retryCount)
  let delay ← readSeconds .retryDelay (env.text .retryDelay)
  let fallbackPort ← readFallbackPort env
  let backoff ← readBackoff env delay
  return {
    host := env.text .host, service := env.text .serviceName, username := env.text .username
    password := (env.text? .password).getD ""
    port, transport, verify, timeout, retries, delay, backoff, fallbackPort }

def recordedTexts (env : Environment) : List (SettingsKey × String) :=
  SettingsKey.ascending.filterMap fun key =>
    if key = .password then none else (env.text? key).map fun s => (key, s)

def missingKey? (env : Environment) : Option SettingsKey :=
  SettingsKey.required.find? fun key => (env.text? key).isNone

def read (env : Environment) : Except Fault Settings :=
  match missingKey? env with
  | some key => .error (.missingKey key.name)
  | none =>
    match readDraft env >>= Draft.check with
    | .ok settings => .ok { settings with recorded := recordedTexts env }
    | .error reason => .error (.settings reason)

/-- The canonical text under a key. -/
def canonical? (s : Settings) : SettingsKey → Option String
  | .host => some s.target.host
  | .port => some (toString s.target.port.toNat)
  | .serviceName => some s.target.service
  | .username => some s.target.username
  | .password => some Password.redacted
  | .protocol => some s.target.transport.protocol
  | .verifyIdentity => some (if s.target.verify then "true" else "false")
  | .connectTimeout => some s.target.timeout.secondsText
  | .retryCount => some (toString s.retry.retries)
  | .retryDelay => some s.retry.delay.secondsText
  | .fallbackPort => s.fallbackPort.map fun port => toString port.toNat
  | .retryBackoff => match s.retry.backoff with
    | .linear => none
    | .exponential _ => some "exponential"
  | .retryMaxDelay => match s.retry.backoff with
    | .linear => none
    | .exponential longest => some longest.secondsText

/-- The text that is written under a key: the recorded one, or else the canonical one. -/
def written? (s : Settings) (key : SettingsKey) : Option String :=
  (s.recorded.lookup key).or (s.canonical? key)

/-- The settings as an environment, in ascending order of keys, with the password redacted. -/
def environment (s : Settings) : Environment :=
  SettingsKey.ascending.filterMap fun key => (s.written? key).map fun text => (key.name, text)

/-- The environment of the settings, with the password put back. -/
def environmentWith (s : Settings) (password : Password) : Environment :=
  s.environment ++ [(SettingsKey.password.name, password.clear)]

end Settings
end OracleIntake
