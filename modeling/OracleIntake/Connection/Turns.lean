import OracleIntake.Connection.Shared

/-!
# Taking turns

The holders of a shared connection make their calls under one lock. A call waits until nobody has the lock,
takes it, goes on from wait to wait, and gives the lock back when it is over. Between two of its steps all the
other holders may make steps: take the lock, if nobody has it, or give up a call that still waits for it.

* `Turns.Step`: what may happen next. Only the step that takes the lock looks at it.
* `Turns.inTurn`: the same calls made one after the other.
-/
namespace OracleIntake

/-- A call that has begun, with what is left of it. -/
structure Turn where
  call : SharedCall
  rest : Dialogue call.Result

structure Holder where
  /-- The calls that the holder has still to begin. The first of them waits for the lock, or is given up. -/
  waiting : List SharedCall
  /-- The call that the holder has begun. -/
  current : Option Turn := none

/-- A call that is over; it has no result if its holder gave it up. -/
structure FinishedCall where
  holder : Nat
  call : SharedCall
  result : Option call.Result

/-- A shared connection and its holders. -/
structure Turns (σ : Type) where
  /-- The connection as the last call that is over left it. -/
  connection : Connection
  world : σ
  holders : Nat → Holder
  /-- Who has the lock. -/
  lock : Option Nat := none
  /-- What has happened, and in whose call. -/
  log : List (Nat × Event) := []
  finished : List FinishedCall := []

namespace Turns
variable {σ : Type}

/-- The holders with one of them changed. -/
def holdersWith (x : Turns σ) (h : Nat) (holder : Holder) : Nat → Holder :=
  fun h' => if h' = h then holder else x.holders h'

/-- What is appended to the log when `events` happen in a call of the holder `h`. -/
def logged (h : Nat) (events : List Event) : List (Nat × Event) := events.map fun e => (h, e)

/-- What may happen next. -/
inductive Step (w : Dialogue.World σ) : Turns σ → Turns σ → Prop where
  /-- A call that waits takes the lock, which nobody has, and begins. -/
  | begins {x : Turns σ} {h : Nat} {call : SharedCall} {calls : List SharedCall} :
    x.lock = none → x.holders h = ⟨call :: calls, none⟩ →
    Step w x { x with
      lock := some h
      holders := x.holdersWith h ⟨calls, some ⟨call, call.dialogue x.connection⟩⟩ }
  /-- A call that waits is given up. -/
  | leaves {x : Turns σ} {h : Nat} {call : SharedCall} {calls : List SharedCall} :
    x.holders h = ⟨call :: calls, none⟩ →
    Step w x { x with holders := x.holdersWith h ⟨calls, none⟩ }
  /-- A call that has begun goes on. -/
  | goesOn {x : Turns σ} {h : Nat} {calls : List SharedCall} {call : SharedCall} {p q : Dialogue call.Result}
      {events : List Event} {st : σ} :
    x.holders h = ⟨calls, some ⟨call, p⟩⟩ → p.step w x.world = (.rest q, events, st) →
    Step w x { x with
      holders := x.holdersWith h ⟨calls, some ⟨call, q⟩⟩
      world := st
      log := x.log ++ logged h events }
  /-- A call that has begun is over, be it that its holder gives it up, and gives the lock back. -/
  | ends {x : Turns σ} {h : Nat} {calls : List SharedCall} {call : SharedCall} {p : Dialogue call.Result}
      {c : Connection} {result : Option call.Result} {events : List Event} {st : σ} :
    x.holders h = ⟨calls, some ⟨call, p⟩⟩ → p.step w x.world = (.over c result, events, st) →
    Step w x { x with
      connection := c
      holders := x.holdersWith h ⟨calls, none⟩
      world := st
      lock := none
      log := x.log ++ logged h events
      finished := x.finished ++ [⟨h, call, result⟩] }

/-- What may have happened after any number of steps. -/
inductive Steps (w : Dialogue.World σ) : Turns σ → Turns σ → Prop where
  | refl (x : Turns σ) : Steps w x x
  | tail {x y z : Turns σ} : Steps w x y → Step w y z → Steps w x z

/-- Makes calls one after the other, each to its end. -/
def inTurn (w : Dialogue.World σ) (x : Course σ) : List (Nat × SharedCall) → Course σ × List FinishedCall
  | [] => (x, [])
  | (holder, call) :: calls =>
    let (result, x) := x.hold w fun c => call.dialogue c
    let (x, finished) := inTurn w x calls
    (x, ⟨holder, call, result⟩ :: finished)

end Turns
end OracleIntake
