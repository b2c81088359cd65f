import OracleIntake.Rehearsal.Script
import OracleIntake.Text.Search

/-!
# A stand-in for a database

A driver whose sessions react to words in the statements: one statement fails, one loses the session, one loses
it without saying so in its kind. Opening follows a script, or never ends.
-/
namespace OracleIntake.Standin

/-- What the stand-in's server calls itself. -/
def banner : String := "Oracle Database 19c Enterprise Edition Release 19.0.0.0.0 - Production"

/-- A certificate that is not accepted. -/
def tlsFailure : DriverFailure :=
  { kind := .transport, code := some 29024, message := "ORA-29024: Certificate validation failure" }

/-- A port at which nothing listens. -/
def refused : DriverFailure :=
  { kind := .listener, code := some 12541, message := "ORA-12541: TNS:no listener" }

/-- A session that broke. -/
def lostSession : DriverFailure :=
  { kind := .sessionLost, code := some 3113, message := "ORA-03113: end-of-file on communication channel" }

/-- A session that broke, told by the message alone. -/
def untoldLoss : DriverFailure :=
  { kind := .unclassified, message := "ORA-03113: end-of-file on communication channel" }

/-- A statement on a table that is not there. -/
def noTable : DriverFailure :=
  { kind := .statement, code := some 942, message := "ORA-00942: table or view does not exist" }

inductive Opening where
  /-- By these replies, and by the last one when they are used up. -/
  | scripted (replies : List (Reply Unit)) (otherwise : Reply Unit)
  /-- Never. -/
  | hanging

structure State where
  opening : Opening
  /-- The user of every session, in upper case. -/
  user : String
  nextSession : SessionId := 0
  clock : Clock := {}

def provoked? (sql : String) : Option DriverFailure :=
  let has (word : String) := Text.occursIn word.toList sql.toList
  if has "DROP_SESSION" then some lostSession
  else if has "UNCLASSIFIED_EOF" then some untoldLoss
  else if has "FAIL_STATEMENT" then some noTable
  else none

/-- The result of a statement, unless it provokes a failure. -/
def react {α : Type} (sql : String) (result : α) : Except DriverFailure α :=
  match provoked? sql with
  | some f => .error f
  | none => .ok result

def State.unanswered {α : Type} (s : State) (deadline : Option Duration) : Waited α × State :=
  let (w, clock) := s.clock.unanswered deadline
  (w, { s with clock })

def State.openSession (s : State) (deadline : Option Duration) :
    Waited (Except DriverFailure SessionId) × State :=
  match s.opening with
  | .hanging => s.unanswered deadline
  | .scripted replies otherwise =>
    let (r, replies) := otherwise.next replies
    let s := { s with opening := .scripted replies otherwise }
    match r with
    | .gives () => (.answered (.ok s.nextSession), { s with nextSession := s.nextSession + 1 })
    | .fails f => (.answered (.error f), s)
    | .silent => s.unanswered deadline

def State.answer (q : Request) (deadline : Option Duration) (s : State) : Waited q.Answer × State :=
  match q with
  | .openSession _ => s.openSession deadline
  | .execute _ sql _ => (.answered (react sql 2), s)
  | .query _ sql _ => (.answered (react sql [{ cells := [{ column := "STATEMENT", value := .text sql }] }]), s)
  | .serverVersion _ => (.answered (.ok banner), s)
  | .currentUser _ => (.answered (if s.user = "DROP_SESSION" then .error lostSession else .ok s.user), s)
  | .close _ => (.answered (.ok ()), s)
  | .wait span =>
    let (a, clock) := s.clock.wait deadline span
    (a, { s with clock })

def world : Dialogue.World State where
  answer := State.answer
  elapsed := fun s => s.clock.span

end OracleIntake.Standin
