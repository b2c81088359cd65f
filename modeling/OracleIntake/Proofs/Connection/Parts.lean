import OracleIntake.Connection.Call
import OracleIntake.Proofs.Connection.Life

/-!
# What calls are made of

Every call is put together from three parts: connecting, inquiring at the open session, and disconnecting. What
each of the parts keeps, every call keeps.

* `Inquiry`: the four things that a session is asked for.
* `Upholds.call`: a call upholds what its parts uphold, wherever it is given up.
* `Keeps.call`: the same for what holds where a call ends in order.
-/
namespace OracleIntake
open Dialogue

/-- What the fault tells of a connect cycle. -/
def Fault.progress? : Fault → Option Progress
  | connection f => some f.progress
  | timeout _ p => some p
  | cancelled p => some p
  | _ => none

/-! ## Inquiries -/

/-- The session that a request goes to. -/
def Request.session? : Request → Option SessionId
  | execute s .. | query s .. | serverVersion s | currentUser s | close s => some s
  | openSession _ | wait _ => none

/-- An answer that says that the session is lost. -/
def DriverFailure.isLoss {α : Type} : Except DriverFailure α → Bool
  | .error f => f.effectiveKind == .sessionLost
  | .ok _ => false

/-- The answer to the request says that the session is lost. -/
def Request.tellsLoss : (q : Request) → q.Answer → Bool
  | execute .., a => DriverFailure.isLoss (α := Nat) a
  | query .., a => DriverFailure.isLoss (α := List Row) a
  | serverVersion _, a | currentUser _, a => DriverFailure.isLoss (α := String) a
  | openSession _, _ | close _, _ | wait _, _ => false

/-- What can be asked of an open session. -/
structure Inquiry (α : Type) where
  request : SessionId → Request
  answer_eq : ∀ s, (request s).Answer = Except DriverFailure α
  session_eq : ∀ s, (request s).session? = some s
  owned_eq : ∀ s, (request s).owned = []
  loss_eq : ∀ s a, (request s).tellsLoss a = DriverFailure.isLoss (cast (answer_eq s) a)

namespace Inquiry

def execute (sql : String) (params : Params) : Inquiry Nat :=
  ⟨(.execute · sql params), fun _ => rfl, fun _ => rfl, fun _ => rfl, fun _ _ => rfl⟩

def query (sql : String) (params : Params) : Inquiry (List Row) :=
  ⟨(.query · sql params), fun _ => rfl, fun _ => rfl, fun _ => rfl, fun _ _ => rfl⟩

def version : Inquiry String :=
  ⟨.serverVersion, fun _ => rfl, fun _ => rfl, fun _ => rfl, fun _ _ => rfl⟩

def user : Inquiry String :=
  ⟨.currentUser, fun _ => rfl, fun _ => rfl, fun _ => rfl, fun _ _ => rfl⟩

end Inquiry

namespace Connection
variable {α : Type} {c : Connection} {past : List Moment}

def inquire (c : Connection) (sql : String) (i : Inquiry α) : Dialogue (Except Fault α) :=
  c.withSession fun session => .await c (i.request session) fun a => settle c sql (cast (i.answer_eq session) a)

theorem execute_eq_inquire (sql : String) (params : Params) :
    c.execute sql params = c.inquire sql (.execute sql params) := rfl

theorem query_eq_inquire (sql : String) (params : Params) :
    c.query sql params = c.inquire sql (.query sql params) := rfl

theorem askVersion_eq_inquire : c.askVersion = c.inquire "server version" .version := rfl

theorem askUser_eq_inquire : c.askUser = c.inquire "current user" .user := rfl

theorem withSession_ensures {post : Post (Except Fault α)} {next : SessionId → Dialogue (Except Fault α)}
    (hnone : post past c (some (.error .notConnected)))
    (hnext : ∀ session, c.lifecycle = .opened → c.session = some session →
      (next session).Ensures post past) : (c.withSession next).Ensures post past := by
  unfold withSession
  split
  · rename_i session h
    unfold openSession? at h
    split at h
    · rename_i ho
      exact hnext session ho h
    · cases h
  · exact hnone

/-- An inquiry comes to what the driver answered; only a lost session changes the connection. -/
theorem settle_ensures {post : Post (Except Fault α)} {sql : String} {answer : Except DriverFailure α}
    (hkept : DriverFailure.isLoss answer = false → ∀ r, post past c (some r))
    (hlost : DriverFailure.isLoss answer = true → ∀ f, f.isFatal = true → f.progress? = none →
      post (past ++ c.session.toList.map .released) (c.broken f) (some (.error f))) :
    (settle c sql answer).Ensures post past := by
  cases answer with
  | ok a => exact hkept rfl _
  | error f =>
    simp only [settle]
    cases hf : f.effectiveKind == .sessionLost with
    | true => exact ensures_releasing.2 (hlost hf _ rfl rfl)
    | false => exact hkept hf _

end Connection

/-! ## Calls -/

section
variable {Q : List Moment → Connection → Bool → Prop} {c : Connection}

/-- The parts of a call uphold what is told by `Q` of the moments of the call, of the connection, and of whether
there is a result. -/
structure Upholds (Q : List Moment → Connection → Bool → Prop) : Prop where
  connects : ∀ {c : Connection} (deadline : Option Duration), Q [] c true →
    (c.connectBy deadline).Ensures (fun ms c r => Q ms c r.isSome) []
  inquires : ∀ {α : Type} {past : List Moment} {c : Connection} (sql : String) (i : Inquiry α),
    Q past c true → (c.inquire sql i).Ensures (fun ms c r => Q ms c r.isSome) past
  disconnects : ∀ {past : List Moment} {c : Connection}, Q past c true →
    c.disconnect.Ensures (fun ms c r => Q ms c r.isSome) past

theorem probe_upholds {past : List Moment}
    (hinquire : ∀ {α : Type} {past : List Moment} {c : Connection} (sql : String) (i : Inquiry α),
      Q past c true → (c.inquire sql i).Ensures (fun ms c r => Q ms c r.isSome) past)
    (hc : Q past c true) : c.probe.Ensures (fun ms c r => Q ms c r.isSome) past := by
  unfold Connection.probe
  rw [Connection.askVersion_eq_inquire]
  refine (hinquire "server version" .version hc).andThen (fun _ _ h => h) fun ms c' version hc => ?_
  cases version with
  | error fault => exact hc
  | ok version =>
    dsimp only
    rw [Connection.askUser_eq_inquire]
    refine (hinquire "current user" .user hc).andThen (fun _ _ h => h) fun ms c' user hc => ?_
    cases user with
    | error fault => exact hc
    | ok user => exact hc

namespace Upholds

theorem check (h : Upholds Q) (hc : Q [] c true) (deadline : Option Duration) :
    (c.check deadline).Ensures (fun ms c r => Q ms c r.isSome) [] := by
  refine (h.connects deadline hc).andThen (fun _ _ h => h) fun ms c₁ connected hc => ?_
  cases connected with
  | error fault => exact hc
  | ok _ =>
    refine (probe_upholds h.inquires hc).andThen (fun _ _ h => h) fun ms c₂ found hc => ?_
    dsimp only
    split
    · exact (h.disconnects hc).andThen (fun _ _ h => h) fun _ _ _ h₃ => h₃
    · exact hc

/-- **One call.** A call upholds what its parts uphold. -/
theorem call (h : Upholds Q) (hc : Q [] c true) (call : Call) :
    (call.dialogue c).Ensures (fun ms c r => Q ms c r.isSome) [] := by
  cases call with
  | connect deadline => exact h.connects deadline hc
  | disconnect => exact h.disconnects hc
  | execute sql params => exact h.inquires sql (.execute sql params) hc
  | query sql params => exact h.inquires sql (.query sql params) hc
  | check deadline => exact h.check hc deadline

end Upholds
end

/-! ## Calls that end in order -/

/-- `P` holds where a call ends in order. -/
def orderlyPost {α : Type} (P : List Moment → Connection → Prop) : Post α :=
  fun ms c r => Orderly ms r.isSome → P ms c

/-- The parts of a call keep what is told by `P` of the moments of the call and the connection. -/
structure Keeps (P : List Moment → Connection → Prop) : Prop where
  connects : ∀ {c : Connection} (deadline : Option Duration), P [] c →
    (c.connectBy deadline).Ensures (orderlyPost P) []
  inquires : ∀ {α : Type} {past : List Moment} {c : Connection} (sql : String) (i : Inquiry α), P past c →
    (c.inquire sql i).Ensures (orderlyPost P) past
  disconnects : ∀ {past : List Moment} {c : Connection}, P past c →
    c.disconnect.Ensures (orderlyPost P) past

variable {P : List Moment → Connection → Prop} {c : Connection}

theorem probe_ensures {past : List Moment}
    (hinquire : ∀ {α : Type} {past : List Moment} {c : Connection} (sql : String) (i : Inquiry α),
      P past c → (c.inquire sql i).Ensures (orderlyPost P) past)
    (hc : P past c) : c.probe.Ensures (orderlyPost P) past :=
  probe_upholds (Q := fun ms c finished => Orderly ms finished → P ms c)
    (fun sql i h => hinquire sql i (h (orderly_finished _))) fun _ => hc

/-- What is kept is upheld where the call ends in order. -/
theorem Keeps.upholds (h : Keeps P) : Upholds fun ms c finished => Orderly ms finished → P ms c where
  connects deadline hc := h.connects deadline (hc (orderly_finished _))
  inquires sql i hc := h.inquires sql i (hc (orderly_finished _))
  disconnects hc := h.disconnects (hc (orderly_finished _))

/-- **One call.** A call keeps what its parts keep. -/
theorem Keeps.call (h : Keeps P) (hc : P [] c) (call : Call) : (call.dialogue c).Ensures (orderlyPost P) [] :=
  h.upholds.call (fun _ => hc) call

end OracleIntake
