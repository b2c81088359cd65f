import OracleIntake.Connection.Dialogue

/-!
# Reading a log

What a driver has seen, read off the events of a run: the endpoints it was asked to open, the calls on its
sessions, and how many sessions are alive.
-/
namespace OracleIntake.Log

/-- The endpoints that were asked for, in order. -/
def targets (log : List Event) : List Target :=
  log.filterMap fun
    | .asked (.openSession t) => some t
    | _ => none

/-- The requests to sessions, in order. -/
def calls (log : List Event) : List Request :=
  log.filterMap fun
    | .asked (.openSession _) | .asked (.wait _) => none
    | .asked q => some q
    | _ => none

/-- The texts of the statements and queries, in order. -/
def statements (log : List Event) : List String :=
  log.filterMap fun
    | .asked (.execute _ sql _) | .asked (.query _ sql _) => some sql
    | _ => none

/-- The number of sessions that were closed in order. -/
def closes (log : List Event) : Nat :=
  log.countP fun
    | .asked (.close _) => true
    | _ => false

/-- The sessions that were handed out and not let go, the latest first. -/
def alive (log : List Event) : List SessionId :=
  log.foldl (fun alive e => match e with
    | .opened s => s :: alive
    | .released s => alive.erase s
    | .asked _ => alive) []

end OracleIntake.Log
