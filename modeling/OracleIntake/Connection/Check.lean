import OracleIntake.Connection.Session

/-!
# Checking a connection

A check connects if need be, asks the server for its version and for the user, and reports what it found. A
session that was opened only for the check is closed again.
-/
namespace OracleIntake

/-- What a check found. It never holds a password. -/
structure CheckReport where
  success : Bool := false
  /-- The transport and the port of the session. -/
  transport : Option Transport := none
  port : Option UInt16 := none
  serverVersion : Option String := none
  currentUser : Option String := none
  attempts : Nat := 0
  anyFallback : Bool := false
  fault : Option Fault := none
  deriving DecidableEq, Repr

namespace Connection

def askVersion (c : Connection) : Dialogue (Except Fault String) :=
  c.withSession fun session => .await c (.serverVersion session) fun a => settle c "server version" a

def askUser (c : Connection) : Dialogue (Except Fault String) :=
  c.withSession fun session => .await c (.currentUser session) fun a => settle c "current user" a

/-- Asks for the version and then for the user; a fault of the first ends the probe. -/
def probe (c : Connection) : Dialogue (Except Fault (String × String)) :=
  c.askVersion.andThen fun
    | c, .error fault => .done c (.error fault)
    | c, .ok version => c.askUser.andThen fun
      | c, .error fault => .done c (.error fault)
      | c, .ok user => .done c (.ok (version, user))

/-- The report with what the connection knows about the cycle at the end. -/
def reported (r : CheckReport) (c : Connection) : Dialogue CheckReport :=
  .done c { r with attempts := c.progress.attempts, anyFallback := c.progress.anyFallback }

/-- The endpoint of the open session in a report. -/
def endpointReport (c : Connection) : CheckReport :=
  { transport := c.target.map Target.transport, port := c.target.map Target.port }

/-- What a probe adds to a report. -/
def probeReport (r : CheckReport) : Except Fault (String × String) → CheckReport
  | .ok (version, user) => { r with success := true, serverVersion := some version, currentUser := some user }
  | .error fault => { r with fault := some fault }

/-- Checks the connection; the connect cycle may have a deadline. -/
def check (deadline : Option Duration) (c : Connection) : Dialogue CheckReport :=
  let wasOpen := c.isOpen
  (connectBy deadline c).andThen fun
    | c, .error fault => reported { fault := some fault } c
    | c, .ok () => c.probe.andThen fun c' found =>
      let r := probeReport c.endpointReport found
      if !wasOpen && c'.isOpen then c'.disconnect.andThen fun c' _ => reported r c'
      else reported r c'

end Connection
end OracleIntake
