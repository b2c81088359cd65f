import OracleIntake.Connection.Check

/-!
# Calls

The calls that a connection takes, each with the dialogue that carries it out, and the course of a connection
through one call after the other.
-/
namespace OracleIntake

inductive Call where
  | connect (deadline : Option Duration)
  | disconnect
  | execute (sql : String) (params : Params)
  | query (sql : String) (params : Params)
  | check (deadline : Option Duration)
  deriving DecidableEq, Repr

namespace Call

def Result : Call → Type
  | connect _ => Except Fault Unit
  | disconnect => Unit
  | execute .. => Except Fault Nat
  | query .. => Except Fault (List Row)
  | check _ => CheckReport

def dialogue (c : Connection) : (call : Call) → Dialogue call.Result
  | connect deadline => c.connectBy deadline
  | disconnect => c.disconnect
  | execute sql params => c.execute sql params
  | query sql params => c.query sql params
  | check deadline => c.check deadline

end Call

/-- A connection in a world, and what has happened to it. -/
structure Course (σ : Type) where
  connection : Connection
  world : σ
  log : List Event := []

namespace Course
variable {σ α : Type}

/-- Holds a dialogue to its end, or till its caller gives it up. -/
def hold (w : Dialogue.World σ) (talk : Connection → Dialogue α) (x : Course σ) : Option α × Course σ :=
  let ran := (talk x.connection).run w x.world
  (ran.result, { connection := ran.connection, world := ran.world, log := x.log ++ ran.log })

def makeAll (w : Dialogue.World σ) (x : Course σ) : List Call → Course σ
  | [] => x
  | call :: calls => makeAll w (x.hold w fun c => call.dialogue c).2 calls

end Course
end OracleIntake
