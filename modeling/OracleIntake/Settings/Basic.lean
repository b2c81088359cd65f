import OracleIntake.Endpoint.Target
import OracleIntake.Settings.Fault
import OracleIntake.Settings.RetryPolicy

/-!
# Settings

The settings of a connection, and drafts of them. A draft becomes settings by one check: nothing that names
the endpoint is blank, the retries can be counted in 32 bits and the port is not zero.
-/
namespace OracleIntake

inductive SettingsKey where
  | host | port | serviceName | username | password | protocol | verifyIdentity | connectTimeout
  | retryCount | retryDelay | fallbackPort | retryBackoff | retryMaxDelay
  deriving DecidableEq, Repr

structure Settings where
  /-- The endpoint of the first attempt of a cycle. -/
  target : Target
  retry : RetryPolicy := {}
  /-- The port to try when the listener does not answer. -/
  fallbackPort : Option UInt16 := none
  /-- The texts that the settings were read from, the password's excepted. -/
  recorded : List (SettingsKey × String) := []
  deriving DecidableEq, Repr

namespace Settings

def securePort : UInt16 := 2484

/-- Settings before they are checked. -/
structure Draft where
  host : String
  service : String
  username : String
  password : String
  port : UInt16 := securePort
  transport : Transport := .secure
  verify : Bool := true
  timeout : Duration := .ofSeconds 30
  retries : Int := 3
  delay : Duration := .ofSeconds 2
  backoff : Backoff := .linear
  fallbackPort : Option UInt16 := none
  deriving DecidableEq, Repr

/-- The first part of a draft that must not be blank and is, by name. -/
def Draft.blank? (d : Draft) : Option String :=
  ([("host", d.host), ("service name", d.service), ("username", d.username), ("password", d.password)].find?
    fun (_, text) => Text.isBlankText text).map Prod.fst

def Draft.target (d : Draft) : Target :=
  { host := d.host, port := d.port, service := d.service, username := d.username
    password := ⟨d.password⟩, transport := d.transport, verify := d.verify, timeout := d.timeout }

/-- The settings of a draft, if it passes the check. A fallback port of zero is none. -/
def Draft.check (d : Draft) : Except SettingsFault Settings :=
  match d.blank? with
  | some field => .error (.blank field)
  | none =>
    if d.retries < 0 then .error (.negativeRetries d.retries)
    else if (RetryPolicy.maxCount : Int) < d.retries then .error (.tooManyRetries d.retries)
    else if d.port = 0 then .error .zeroPort
    else .ok {
      target := d.target
      retry := { retries := d.retries.toNat, delay := d.delay, backoff := d.backoff }
      fallbackPort := d.fallbackPort.filter (· ≠ 0) }

end Settings
end OracleIntake
