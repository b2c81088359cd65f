import OracleIntake.Connection.Dialogue

/-!
# Scripted drivers

A driver that answers from lists, one entry for each request of a sort. When a list is used up it answers in a
standard way: a session, one row changed, no rows, a version, the user as configured, a session closed.

Only waits take time. A caller without patience gives up at the first wait and at the first silence; a patient
one stays until the deadline passes.
-/
namespace OracleIntake

/-- The time since the start of a call, and the caller's patience. -/
structure Clock where
  patient : Bool := true
  elapsed : Nat := 0

namespace Clock

def span (c : Clock) : Duration := .saturated c.elapsed

/-- The end of a wait for something that does not come: at the deadline, or when the caller gives up. -/
def unanswered {α : Type} (c : Clock) (deadline : Option Duration) : Waited α × Clock :=
  match c.patient, deadline with
  | true, some d => (.late, { c with elapsed := max c.elapsed d.nanos })
  | _, _ => (.givenUp, c)

/-- Waits, if the caller's patience and the deadline allow it. -/
def wait (c : Clock) (deadline : Option Duration) (span : Duration) : Waited Unit × Clock :=
  let inTime := match deadline with
    | some d => c.elapsed + span.nanos ≤ d.nanos
    | none => true
  if c.patient && inTime then (.answered (), { c with elapsed := c.elapsed + span.nanos })
  else c.unanswered deadline

end Clock

inductive Reply (α : Type) where
  | gives (value : α)
  | fails (failure : DriverFailure)
  /-- No answer ever comes. -/
  | silent
  deriving DecidableEq, Repr

/-- The first entry of a list, or the standard reply, and the rest. -/
def Reply.next {α : Type} (standard : Reply α) : List (Reply α) → Reply α × List (Reply α)
  | r :: rs => (r, rs)
  | [] => (standard, [])

/-- What a scripted driver has still to say. -/
structure Script where
  opens : List (Reply Unit) := []
  /-- The reply to a request for a session when `opens` is used up. -/
  otherwise : Reply Unit := .gives ()
  executes : List (Reply Nat) := []
  queries : List (Reply (List Row)) := []
  versions : List (Reply String) := []
  users : List (Reply String) := []
  closes : List (Reply Unit) := []
  /-- The user of every session. -/
  user : String := ""
  /-- The number of the next session. -/
  nextSession : SessionId := 0
  clock : Clock := {}

namespace Script

/-- What a reply comes to. -/
def heard {α : Type} (r : Reply α) (deadline : Option Duration) (s : Script) :
    Waited (Except DriverFailure α) × Script :=
  match r with
  | .gives a => (.answered (.ok a), s)
  | .fails f => (.answered (.error f), s)
  | .silent =>
    let (w, clock) := s.clock.unanswered deadline
    (w, { s with clock })

def openSession (deadline : Option Duration) (s : Script) : Waited (Except DriverFailure SessionId) × Script :=
  let (r, opens) := s.otherwise.next s.opens
  match r with
  | .gives () => heard (.gives s.nextSession) deadline { s with opens, nextSession := s.nextSession + 1 }
  | .fails f => heard (.fails f) deadline { s with opens }
  | .silent => heard .silent deadline { s with opens }

def answer (q : Request) (deadline : Option Duration) (s : Script) : Waited q.Answer × Script :=
  match q with
  | .openSession _ => s.openSession deadline
  | .execute .. =>
    let (r, executes) := (Reply.gives 1).next s.executes
    heard r deadline { s with executes }
  | .query .. =>
    let (r, queries) := (Reply.gives ([] : List Row)).next s.queries
    heard r deadline { s with queries }
  | .serverVersion _ =>
    let (r, versions) := (Reply.gives "Oracle Database 19c").next s.versions
    heard r deadline { s with versions }
  | .currentUser _ =>
    let (r, users) := (Reply.gives s.user).next s.users
    heard r deadline { s with users }
  | .close _ =>
    let (r, closes) := (Reply.gives ()).next s.closes
    heard r deadline { s with closes }
  | .wait span =>
    let (w, clock) := s.clock.wait deadline span
    (w, { s with clock })

def world : Dialogue.World Script where
  answer := answer
  elapsed := fun s => s.clock.span

end Script
end OracleIntake
