import OracleIntake.Connection.Dialogue

/-!
# The moments of a run

The log of a run says what the world saw. To say how the connection stood at each wait and what the answer
was, `moments` records a run with both; the log is a view of it.

* `log_eq_events`: the log of a run is what its moments show.
* `Moments.outcomes`, `Moments.failures`, `Moments.attempts`: what the moments tell about the attempts to
  open a session.
* `isSome_run_of_attends`: a dialogue comes to a result where every request is answered.
-/
namespace OracleIntake

/-- One point of a run: a session is let go, or the call waits for an answer while the connection stands as
told, and the wait ends in some way. -/
inductive Moment where
  | released (session : SessionId)
  | asked (connection : Connection) (request : Request) (ending : Waited request.Answer)

namespace Moment

def events : Moment → List Event
  | released s => [.released s]
  | asked _ q (.answered a) => .asked q :: (q.handedOut a).map .opened
  | asked _ q .late | asked _ q .givenUp => .asked q :: q.owned.map .released

/-- What the driver answered to a request for a session. -/
def outcome? : Moment → Option (Except DriverFailure SessionId)
  | asked _ (.openSession _) (.answered a) => some a
  | _ => none

/-- An attempt is started. -/
def isAttempt : Moment → Bool
  | asked _ (.openSession _) _ => true
  | _ => false

end Moment

namespace Moments

/-- What the world sees of some moments, in order. -/
def events (ms : List Moment) : List Event := ms.flatMap Moment.events

/-- The outcomes of the attempts that came to an end, in order. -/
def outcomes (ms : List Moment) : List (Except DriverFailure SessionId) := ms.filterMap Moment.outcome?

def failure? {α : Type} : Except DriverFailure α → Option DriverFailure
  | .error f => some f
  | .ok _ => none

/-- The failures of the attempts that came to an end, in order. -/
def failures (ms : List Moment) : List DriverFailure := (outcomes ms).filterMap failure?

/-- The number of attempts that were started. -/
def attempts (ms : List Moment) : Nat := ms.countP Moment.isAttempt

section
variable (ms ns : List Moment)

@[simp] theorem events_append : events (ms ++ ns) = events ms ++ events ns := List.flatMap_append

@[simp] theorem outcomes_append : outcomes (ms ++ ns) = outcomes ms ++ outcomes ns := List.filterMap_append

@[simp] theorem failures_append : failures (ms ++ ns) = failures ms ++ failures ns := by
  simp [failures, List.filterMap_append]

@[simp] theorem attempts_append : attempts (ms ++ ns) = attempts ms + attempts ns := List.countP_append

end
end Moments

namespace Dialogue
open Moments
variable {α σ : Type}

/-- The moments of a dialogue in a world. -/
def moments (w : World σ) : Dialogue α → σ → List Moment
  | done _ _, _ => []
  | release s p, st => .released s :: p.moments w st
  | await c q resume, st =>
    match w.answer q none st with
    | (.answered a, st) => .asked c q (.answered a) :: (resume a).moments w st
    | (.late, _) | (.givenUp, _) => [.asked c q .givenUp]
  | awaitUntil c q deadline expire resume, st =>
    match w.answer q (some deadline) st with
    | (.answered a, st) => .asked c q (.answered a) :: (resume a).moments w st
    | (.late, st) => .asked c q .late :: (expire (w.elapsed st)).moments w st
    | (.givenUp, _) => [.asked c q .givenUp]

theorem log_eq_events (w : World σ) (p : Dialogue α) (st : σ) :
    (p.run w st).log = events (p.moments w st) := by
  induction p generalizing st with
  | done c a => rfl
  | release s p ih => simp [run, moments, Run.after, events, Moment.events, ih]
  | await c q resume ih =>
    rw [run, moments]
    rcases w.answer q none st with ⟨a | _ | _, st⟩
    · simp [Run.after, events, Moment.events, ih]
    · simp [events, Moment.events]
    · simp [events, Moment.events]
  | awaitUntil c q deadline expire resume ihe ihr =>
    rw [run, moments]
    rcases w.answer q (some deadline) st with ⟨a | _ | _, st⟩
    · simp [Run.after, events, Moment.events, ihr]
    · simp [Run.after, events, Moment.events, ihe]
    · simp [events, Moment.events]

/-- The world answers every request, in time if there is a deadline. -/
def World.Attends (w : World σ) : Prop :=
  ∀ q deadline st, ∃ a st', w.answer q deadline st = (.answered a, st')

theorem isSome_run_of_attends {w : World σ} (h : w.Attends) (p : Dialogue α) (st : σ) :
    (p.run w st).result.isSome := by
  induction p generalizing st with
  | done c a => rfl
  | release s p ih => exact ih st
  | await c q resume ih =>
    obtain ⟨a, st', ha⟩ := h q none st
    simpa [run, ha, Run.after] using ih a st'
  | awaitUntil c q deadline expire resume ihe ihr =>
    obtain ⟨a, st', ha⟩ := h q (some deadline) st
    simpa [run, ha, Run.after] using ihr a st'

end Dialogue
end OracleIntake
