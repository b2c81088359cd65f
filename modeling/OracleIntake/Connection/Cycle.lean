import OracleIntake.Connection.Dialogue

/-!
# Connecting

A connect cycle makes one attempt after the other until one succeeds or the attempts of the policy are used
up. Between two attempts it takes the fallback that the failure calls for and waits as the policy says.
-/
namespace OracleIntake.Connection

/-- The rest of a cycle: an attempt at `target`, with `retries` more after it. -/
def cycle (retries : Nat) (target : Target) (c : Connection) : Dialogue (Except Fault Unit) :=
  let c := c.attempted
  .await c (.openSession target) fun
    | .ok session => .done (c.established session target) (.ok ())
    | .error failure =>
      match retries with
      | 0 =>
        let fault := Fault.connection ⟨c.progress, failure⟩
        .done (c.broken fault) (.error fault)
      | retries + 1 =>
        let next := c.fallBack target failure
        let span := c.settings.retry.delayBefore c.progress.attempts
        if span.isZero then cycle retries next.2 next.1
        else .await next.1 (.wait span) fun _ => cycle retries next.2 next.1

/-- Opens a session, unless one is open. -/
def connect (c : Connection) : Dialogue (Except Fault Unit) :=
  if c.isOpen then .done c (.ok ())
  else .releasing c.session (cycle (c.settings.retry.maxAttempts - 1) c.settings.target c.begun)

/-- What a cycle comes to whose deadline has passed. -/
def timedOut (c : Connection) (elapsed : Duration) : Dialogue (Except Fault Unit) :=
  .done (c.expired elapsed) (.error (.timeout elapsed c.progress))

/-- Opens a session before a deadline, unless one is open. -/
def connectWithin (deadline : Duration) (c : Connection) : Dialogue (Except Fault Unit) :=
  c.connect.within deadline timedOut

/-- Opens a session, before a deadline if there is one. -/
def connectBy (deadline : Option Duration) (c : Connection) : Dialogue (Except Fault Unit) :=
  match deadline with
  | some d => connectWithin d c
  | none => connect c

end OracleIntake.Connection
