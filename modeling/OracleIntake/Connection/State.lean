import OracleIntake.Fault
import OracleIntake.Settings.Basic

/-!
# The state of a connection

A connection has at most one session. Its state is changed only by the small functions here; the dialogues of
the other modules say when. No database driver is built in: whoever asks for a connection to a real database is
told so.

* `abandoned`: what giving up a call leaves. Only a connect cycle in progress is marked; any other call
  leaves the connection as it stands.
-/
namespace OracleIntake

/-- The number by which a session is told from every other. -/
abbrev SessionId := Nat

inductive Lifecycle where
  | closed
  | connecting
  | opened
  | failed
  deriving DecidableEq, Repr, Inhabited

def Lifecycle.text : Lifecycle → String
  | closed => "closed"
  | connecting => "connecting"
  | opened => "open"
  | failed => "failed"

structure Connection where
  settings : Settings
  lifecycle : Lifecycle := .closed
  session : Option SessionId := none
  /-- The endpoint of the open session. -/
  target : Option Target := none
  /-- The most recent connect cycle. -/
  progress : Progress := {}
  lastFault : Option Fault := none
  deriving DecidableEq, Repr

namespace Connection

/-- A session is open and usable. -/
def isOpen (c : Connection) : Bool := c.lifecycle == .opened && c.session.isSome

def openSession? (c : Connection) : Option SessionId :=
  if c.lifecycle = .opened then c.session else none

/-- The start of a connect cycle: nothing is left of the cycle before. -/
def begun (c : Connection) : Connection := { settings := c.settings, lifecycle := .connecting }

/-- One more attempt is started. -/
def attempted (c : Connection) : Connection :=
  { c with progress := { c.progress with attempts := c.progress.attempts + 1 } }

def established (c : Connection) (session : SessionId) (target : Target) : Connection :=
  { c with lifecycle := .opened, session := some session, target := some target }

/-- No session is left, because of `fault`. -/
def broken (c : Connection) (fault : Fault) : Connection :=
  { c with lifecycle := .failed, session := none, target := none, lastFault := some fault }

def closed (c : Connection) : Connection :=
  { c with lifecycle := .closed, session := none, target := none }

/-- The caller gave up the call that was running. -/
def abandoned (c : Connection) : Connection :=
  if c.lifecycle = .connecting then c.broken (.cancelled c.progress) else c

/-- The deadline of a connect cycle has passed. -/
def expired (c : Connection) (elapsed : Duration) : Connection :=
  c.broken (.timeout elapsed c.progress)

/-- The connection and the endpoint of the next attempt after `failure` at `target`. A failed secure transport
gives way to a plain one without verification, and a silent listener to the fallback port; each at most once
in a cycle. -/
def fallBack (c : Connection) (target : Target) (failure : DriverFailure) : Connection × Target :=
  match failure.effectiveKind with
  | .transport =>
    if target.transport.isSecure && !c.progress.plainTried then
      ({ c with progress := { c.progress with plainTried := true } }, target.overPlain)
    else (c, target)
  | .listener =>
    match c.progress.portTried, c.settings.fallbackPort with
    | none, some port =>
      if port = target.port then (c, target)
      else ({ c with progress := { c.progress with portTried := some port } }, target.atPort port)
    | _, _ => (c, target)
  | _ => (c, target)

end Connection

/-! ## The built-in driver -/

namespace BuiltIn

def isSupported : Bool := false

/-- What asking for the built-in driver comes to. -/
def driverFault : Fault := .settings .noDriver

/-- A closed connection over the built-in driver. -/
def connection (settings : Settings) : Except Fault Connection :=
  if isSupported then .ok { settings } else .error driverFault

end BuiltIn
end OracleIntake
