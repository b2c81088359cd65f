import OracleIntake.Connection.Call
import OracleIntake.Connection.Status

/-!
# Shared connections

Several holders use one connection, one call at a time. A statement connects first if no session is open;
a session that is lost during the statement is told, never silently opened again.
-/
namespace OracleIntake.SharedConnection
variable {α : Type}

/-- Goes on with a connection that has been opened if need be. -/
def ensuringOpen (next : Connection → Dialogue (Except Fault α)) (c : Connection) : Dialogue (Except Fault α) :=
  if c.isOpen then next c
  else c.connect.andThen fun
    | c, .ok () => next c
    | c, .error fault => .done c (.error fault)

def execute (sql : String) (params : Params) (c : Connection) : Dialogue (Except Fault Nat) :=
  ensuringOpen (Connection.execute sql params) c

def fetchAll (sql : String) (params : Params) (c : Connection) : Dialogue (Except Fault (List Row)) :=
  ensuringOpen (Connection.query sql params) c

/-- Runs a query and gives its first row, if it has one. -/
def fetchOne (sql : String) (params : Params) (c : Connection) : Dialogue (Except Fault (Option Row)) :=
  (fetchAll sql params c).andThen fun c rows => .done c (rows.map List.head?)

end OracleIntake.SharedConnection

namespace OracleIntake

inductive SharedCall where
  | connect
  | close
  | execute (sql : String) (params : Params)
  | fetchAll (sql : String) (params : Params)
  | fetchOne (sql : String) (params : Params)
  | check (deadline : Option Duration)
  /-- A look at how the connection stands. -/
  | look
  deriving DecidableEq, Repr

namespace SharedCall

def Result : SharedCall → Type
  | connect => Except Fault Unit
  | close => Unit
  | execute .. => Except Fault Nat
  | fetchAll .. => Except Fault (List Row)
  | fetchOne .. => Except Fault (Option Row)
  | check _ => CheckReport
  | look => ConnectionInfo

def dialogue (c : Connection) : (call : SharedCall) → Dialogue call.Result
  | connect => c.connect
  | close => c.disconnect
  | execute sql params => SharedConnection.execute sql params c
  | fetchAll sql params => SharedConnection.fetchAll sql params c
  | fetchOne sql params => SharedConnection.fetchOne sql params c
  | check deadline => c.check deadline
  | look => .done c c.info

end SharedCall
end OracleIntake
