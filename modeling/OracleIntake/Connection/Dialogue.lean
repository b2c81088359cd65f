import OracleIntake.Connection.State
import OracleIntake.Statement.Value

/-!
# Dialogues

A call on a connection is a dialogue: it asks the world for something, waits for the answer and goes on from
there. The world is the driver and the clock. At each such point the dialogue says how the connection stands,
so a caller who gives up there leaves exactly that; at a point under a deadline it also says how to go on
when the deadline passes first. Which of the three comes first is up to the world.

* `run_eq_step`: a run is a step and the run of what is left.
-/
namespace OracleIntake

inductive Request where
  | openSession (target : Target)
  | execute (session : SessionId) (sql : String) (params : Params)
  | query (session : SessionId) (sql : String) (params : Params)
  | serverVersion (session : SessionId)
  | currentUser (session : SessionId)
  | close (session : SessionId)
  | wait (span : Duration)
  deriving DecidableEq, Repr

namespace Request

def Answer : Request → Type
  | openSession _ => Except DriverFailure SessionId
  | execute .. => Except DriverFailure Nat
  | query .. => Except DriverFailure (List Row)
  | serverVersion _ => Except DriverFailure String
  | currentUser _ => Except DriverFailure String
  | close _ => Except DriverFailure Unit
  | wait _ => Unit

/-- The session that only the request holds. -/
def owned : Request → List SessionId
  | close s => [s]
  | _ => []

/-- The session that the answer hands out. -/
def handedOut : (q : Request) → q.Answer → List SessionId
  | openSession _, .ok s => [s]
  | _, _ => []

end Request

inductive Event where
  | asked (request : Request)
  | opened (session : SessionId)
  | released (session : SessionId)
  deriving DecidableEq, Repr

/-- How the wait for an answer ends. -/
inductive Waited (α : Type) where
  | answered (answer : α)
  /-- The deadline passes before the answer comes. -/
  | late
  /-- The caller gives up before the answer comes. -/
  | givenUp
  deriving DecidableEq, Repr

/-- A call on a connection. -/
inductive Dialogue (α : Type) where
  /-- The call is over. -/
  | done (connection : Connection) (result : α)
  /-- A session is let go. -/
  | release (session : SessionId) (next : Dialogue α)
  /-- The call waits for an answer. -/
  | await (connection : Connection) (request : Request) (resume : request.Answer → Dialogue α)
  /-- The call waits for an answer until `deadline` has passed since its start. -/
  | awaitUntil (connection : Connection) (request : Request) (deadline : Duration)
      (expire : Duration → Dialogue α) (resume : request.Answer → Dialogue α)

namespace Dialogue
variable {α β σ : Type}

/-- Goes on with `next` when the dialogue is done. -/
def andThen (p : Dialogue α) (next : Connection → α → Dialogue β) : Dialogue β :=
  match p with
  | done c a => next c a
  | release s p => release s (p.andThen next)
  | await c q resume => await c q fun a => (resume a).andThen next
  | awaitUntil c q d expire resume =>
    awaitUntil c q d (fun t => (expire t).andThen next) fun a => (resume a).andThen next

/-- Lets a session go, if there is one. -/
def releasing : Option SessionId → Dialogue α → Dialogue α
  | some s, p => release s p
  | none, p => p

/-- Puts every wait of the dialogue under a deadline. When it passes, the call that waits is given up, and the
dialogue goes on with `late`. -/
def within (deadline : Duration) (late : Connection → Duration → Dialogue α) : Dialogue α → Dialogue α
  | done c a => done c a
  | release s p => release s (p.within deadline late)
  | await c q resume =>
    awaitUntil c q deadline (fun t => late c.abandoned t) fun a => (resume a).within deadline late
  | awaitUntil c q d expire resume => awaitUntil c q d expire resume

structure World (σ : Type) where
  /-- How the wait for the answer to a request ends. Without a deadline none passes, so that being late is
  giving up. -/
  answer : (request : Request) → (deadline : Option Duration) → σ → Waited request.Answer × σ
  /-- The time since the start of the call. -/
  elapsed : σ → Duration

inductive Left (α : Type) where
  /-- The dialogue is over; there is no result if the caller gave up. -/
  | over (connection : Connection) (result : Option α)
  | rest (dialogue : Dialogue α)

/-- The end of a dialogue whose caller gave up while it waited for the answer to a request. -/
def givingUp (c : Connection) (q : Request) (st : σ) : Left α × List Event × σ :=
  (.over c.abandoned none, .asked q :: q.owned.map .released, st)

/-- One step of a dialogue in a world, with what happens in it. -/
def step (w : World σ) : Dialogue α → σ → Left α × List Event × σ
  | done c a, st => (.over c (some a), [], st)
  | release s p, st => (.rest p, [.released s], st)
  | await c q resume, st =>
    match w.answer q none st with
    | (.answered a, st) => (.rest (resume a), .asked q :: (q.handedOut a).map .opened, st)
    | (.late, st) | (.givenUp, st) => givingUp c q st
  | awaitUntil c q deadline expire resume, st =>
    match w.answer q (some deadline) st with
    | (.answered a, st) => (.rest (resume a), .asked q :: (q.handedOut a).map .opened, st)
    | (.late, st) => (.rest (expire (w.elapsed st)), .asked q :: q.owned.map .released, st)
    | (.givenUp, st) => givingUp c q st

structure Run (σ α : Type) where
  /-- The result, unless the caller gave up. -/
  result : Option α
  connection : Connection
  log : List Event
  world : σ

/-- The run with `events` before it. -/
def Run.after (r : Run σ α) (events : List Event) : Run σ α := { r with log := events ++ r.log }

/-- Runs a dialogue in a world. -/
def run (w : World σ) : Dialogue α → σ → Run σ α
  | done c a, st => ⟨some a, c, [], st⟩
  | release s p, st => (p.run w st).after [.released s]
  | await c q resume, st =>
    match w.answer q none st with
    | (.answered a, st) => ((resume a).run w st).after (.asked q :: (q.handedOut a).map .opened)
    | (.late, st) | (.givenUp, st) => ⟨none, c.abandoned, .asked q :: q.owned.map .released, st⟩
  | awaitUntil c q deadline expire resume, st =>
    match w.answer q (some deadline) st with
    | (.answered a, st) => ((resume a).run w st).after (.asked q :: (q.handedOut a).map .opened)
    | (.late, st) => ((expire (w.elapsed st)).run w st).after (.asked q :: q.owned.map .released)
    | (.givenUp, st) => ⟨none, c.abandoned, .asked q :: q.owned.map .released, st⟩

theorem run_eq_step (w : World σ) (p : Dialogue α) (st : σ) :
    p.run w st = match p.step w st with
      | (.over c result, events, st) => ⟨result, c, events, st⟩
      | (.rest p, events, st) => (p.run w st).after events := by
  cases p with
  | done c a => rfl
  | release s p => rfl
  | await c q resume =>
    rw [run, step]
    rcases w.answer q none st with ⟨a | _ | _, st⟩ <;> rfl
  | awaitUntil c q deadline expire resume =>
    rw [run, step]
    rcases w.answer q (some deadline) st with ⟨a | _ | _, st⟩ <;> rfl

end Dialogue
end OracleIntake
