import OracleIntake.Connection.State

/-!
# What a connection tells of itself

Two views of a connection for logs and reports: how it stands, and what a shared connection tells to its
holders. Neither has the password, nor an endpoint that holds it.
-/
namespace OracleIntake

structure ConnectionStatus where
  lifecycle : Lifecycle
  /-- The most recent connect cycle. -/
  progress : Progress
  /-- The transport and the port of the open session. -/
  transport : Option Transport
  port : Option UInt16
  lastFault : Option Fault
  deriving DecidableEq, Repr

/-- What a shared connection tells to its holders: its settings and how it stands. -/
structure ConnectionInfo where
  host : String
  port : UInt16
  service : String
  username : String
  transport : Transport
  verify : Bool
  fallbackPort : Option UInt16
  retries : Nat
  lifecycle : Lifecycle
  isOpen : Bool
  attempts : Nat
  anyFallback : Bool
  activeTransport : Option Transport
  activePort : Option UInt16
  lastFault : Option Fault
  deriving DecidableEq, Repr

namespace Connection

def status (c : Connection) : ConnectionStatus where
  lifecycle := c.lifecycle
  progress := c.progress
  transport := c.target.map Target.transport
  port := c.target.map Target.port
  lastFault := c.lastFault

def info (c : Connection) : ConnectionInfo where
  host := c.settings.target.host
  port := c.settings.target.port
  service := c.settings.target.service
  username := c.settings.target.username
  transport := c.settings.target.transport
  verify := c.settings.target.verify
  fallbackPort := c.settings.fallbackPort
  retries := c.settings.retry.retries
  lifecycle := c.status.lifecycle
  isOpen := c.isOpen
  attempts := c.status.progress.attempts
  anyFallback := c.progress.anyFallback
  activeTransport := c.status.transport
  activePort := c.status.port
  lastFault := c.status.lastFault

end Connection
end OracleIntake
