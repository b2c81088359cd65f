import OracleIntake.Connection.Cycle

/-!
# Using a session

Statements on the open session, and closing it. A statement that fails leaves the connection as it is, unless
the failure says that the session is lost. Closing takes the session away from the connection first; that the
driver cannot close it in order does not matter.
-/
namespace OracleIntake.Connection
variable {α : Type}

/-- Goes on with the open session, if there is one. -/
def withSession (c : Connection) (next : SessionId → Dialogue (Except Fault α)) : Dialogue (Except Fault α) :=
  match c.openSession? with
  | some session => next session
  | none => .done c (.error .notConnected)

/-- What a statement comes to with the driver's answer. -/
def settle (c : Connection) (sql : String) : Except DriverFailure α → Dialogue (Except Fault α)
  | .ok a => .done c (.ok a)
  | .error failure =>
    let lost := failure.effectiveKind == .sessionLost
    let fault := Fault.ofStatement failure sql lost
    if lost then .releasing c.session (.done (c.broken fault) (.error fault)) else .done c (.error fault)

/-- Executes a statement and gives the number of rows that it changed. -/
def execute (sql : String) (params : Params) (c : Connection) : Dialogue (Except Fault Nat) :=
  c.withSession fun session => .await c (.execute session sql params) fun a => settle c sql a

def query (sql : String) (params : Params) (c : Connection) : Dialogue (Except Fault (List Row)) :=
  c.withSession fun session => .await c (.query session sql params) fun a => settle c sql a

/-- Closes the session, if there is one. -/
def disconnect (c : Connection) : Dialogue Unit :=
  match c.session with
  | some session =>
    .await { c with session := none } (.close session) fun _ => .release session (.done c.closed ())
  | none => .done c.closed ()

/-- The connection is given up for good: its session is let go. -/
def drop (c : Connection) : List Event := c.session.toList.map .released

end OracleIntake.Connection
