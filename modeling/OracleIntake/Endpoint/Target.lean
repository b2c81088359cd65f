import OracleIntake.Duration
import OracleIntake.Endpoint.Transport

/-!
# Targets

The endpoint of one attempt to connect, and its connect descriptor: the protocol, host, port and service, and
behind a question mark the options. A secure target says whether the server's identity is verified; a
connect timeout is told in whole seconds, at least one. The password goes to the driver in clear text and is shown
to nobody else: its shown form is the same for every password.
-/
namespace OracleIntake

structure Password where
  clear : String
  deriving DecidableEq

namespace Password

/-- What stands for any password in a text. -/
def redacted : String := "********"

def shown (_ : Password) : String := redacted

instance : Repr Password := ⟨fun p _ => p.shown⟩

def isEmpty (p : Password) : Bool := p.clear.isEmpty

end Password

structure Target where
  host : String
  port : UInt16
  service : String
  username : String
  password : Password
  transport : Transport
  verify : Bool
  timeout : Duration
  deriving DecidableEq, Repr

namespace Target

/-- The endpoint without encryption, where no identity can be verified. -/
def overPlain (t : Target) : Target := { t with transport := .plain, verify := false }

def atPort (t : Target) (port : UInt16) : Target := { t with port }

/-- The option on the server's identity, for a secure target. -/
def verifyOption? (t : Target) : Option String :=
  if t.transport.isSecure then some ("ssl_server_dn_match=" ++ (if t.verify then "on" else "off")) else none

/-- The option on the connect timeout, unless there is none. -/
def timeoutOption? (t : Target) : Option String :=
  if t.timeout.isZero then none else some ("connect_timeout=" ++ toString (max 1 t.timeout.seconds))

/-- The options behind the question mark. -/
def options (t : Target) : List String := t.verifyOption?.toList ++ t.timeoutOption?.toList

def descriptor (t : Target) : String :=
  t.transport.protocol ++ "://" ++ t.host ++ ":" ++ toString t.port.toNat ++ "/" ++ t.service ++
    (if t.options.isEmpty then "" else "?" ++ "&".intercalate t.options)

/-- `user@host:port/service`. -/
def displayName (t : Target) : String :=
  t.username ++ "@" ++ t.host ++ ":" ++ toString t.port.toNat ++ "/" ++ t.service

end Target
end OracleIntake
