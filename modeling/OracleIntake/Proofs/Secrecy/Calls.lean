import OracleIntake.Connection.Shared
import OracleIntake.Proofs.Secrecy.Substitution

/-!
# Another password in a call

Each call on a connection with another password is the call with another password: nothing that a call does
depends on the password.

* `Call.dialogue_withPassword`, `SharedCall.dialogue_withPassword`: the calls.
-/
namespace OracleIntake
open Dialogue
variable {α : Type} (p : Password)

namespace Connection
variable (c : Connection)

theorem cycle_withPassword (retries : Nat) (target : Target) :
    cycle retries (target.withPassword p) (c.withPassword p) = (cycle retries target c).withPassword p := by
  induction retries generalizing c target with
  | zero =>
    rw [cycle, cycle]
    refine congrArg (await _ _) (funext fun a => ?_)
    cases a <;> rfl
  | succ retries ih =>
    have hattempted : (c.withPassword p).attempted = c.attempted.withPassword p := rfl
    rw [cycle, cycle]
    refine congrArg (await _ _) (funext fun a => ?_)
    cases a with
    | ok session => rfl
    | error failure =>
      -- the same fallback is taken, the same time is waited, and so on with one attempt less
      simp only [hattempted, fallBack_withPassword, Prod.map, ih]
      change _ = Dialogue.withPassword p (if _ then _ else _)
      rw [apply_ite (Dialogue.withPassword p)]
      rfl

theorem connect_withPassword : (c.withPassword p).connect = c.connect.withPassword p := by
  have hcycle := cycle_withPassword p c.begun (c.settings.retry.maxAttempts - 1) c.settings.target
  unfold connect
  rw [apply_ite (Dialogue.withPassword p), ← releasing_withPassword, ← hcycle]
  rfl

theorem connectBy_withPassword (deadline : Option Duration) :
    (c.withPassword p).connectBy deadline = (c.connectBy deadline).withPassword p := by
  cases deadline with
  | none => exact connect_withPassword p c
  | some d =>
    rw [connectBy, connectWithin, connect_withPassword]
    exact within_withPassword (fun _ _ => rfl) _

theorem settle_withPassword (sql : String) (a : Except DriverFailure α) :
    settle (c.withPassword p) sql a = (settle c sql a).withPassword p := by
  cases a with
  | ok a => rfl
  | error failure =>
    unfold settle
    rw [apply_ite (Dialogue.withPassword p), ← releasing_withPassword]
    rfl

theorem withSession_withPassword {next next' : SessionId → Dialogue (Except Fault α)}
    (h : ∀ session, next' session = (next session).withPassword p) :
    (c.withPassword p).withSession next' = (c.withSession next).withPassword p := by
  unfold withSession
  rw [openSession?_withPassword]
  cases c.openSession? with
  | none => rfl
  | some session => exact h session

theorem execute_withPassword (sql : String) (params : Params) :
    (c.withPassword p).execute sql params = (c.execute sql params).withPassword p :=
  withSession_withPassword p c fun _ => congrArg (await _ _) (funext fun a => settle_withPassword p c sql a)

theorem query_withPassword (sql : String) (params : Params) :
    (c.withPassword p).query sql params = (c.query sql params).withPassword p :=
  withSession_withPassword p c fun _ => congrArg (await _ _) (funext fun a => settle_withPassword p c sql a)

theorem disconnect_withPassword : (c.withPassword p).disconnect = c.disconnect.withPassword p := by
  have hsession : (c.withPassword p).session = c.session := rfl
  unfold disconnect
  rw [hsession]
  cases c.session <;> rfl

theorem askVersion_withPassword : (c.withPassword p).askVersion = c.askVersion.withPassword p :=
  withSession_withPassword p c fun _ => congrArg (await _ _) (funext fun a => settle_withPassword p c _ a)

theorem askUser_withPassword : (c.withPassword p).askUser = c.askUser.withPassword p :=
  withSession_withPassword p c fun _ => congrArg (await _ _) (funext fun a => settle_withPassword p c _ a)

theorem probe_withPassword : (c.withPassword p).probe = c.probe.withPassword p := by
  rw [probe, askVersion_withPassword]
  refine andThen_withPassword (fun c version => ?_) _
  cases version with
  | error fault => rfl
  | ok version =>
    change (c.withPassword p).askUser.andThen _ = Dialogue.withPassword p (c.askUser.andThen _)
    rw [askUser_withPassword]
    refine andThen_withPassword (fun c user => ?_) _
    cases user <;> rfl

theorem endpointReport_withPassword : (c.withPassword p).endpointReport = c.endpointReport := by
  unfold endpointReport withPassword
  cases c.target <;> rfl

theorem check_withPassword (deadline : Option Duration) :
    (c.withPassword p).check deadline = (c.check deadline).withPassword p := by
  unfold check
  rw [connectBy_withPassword, isOpen_withPassword]
  refine andThen_withPassword (fun c' connected => ?_) _
  cases connected with
  | error fault => rfl
  | ok =>
    change (c'.withPassword p).probe.andThen _ = Dialogue.withPassword p (c'.probe.andThen _)
    rw [probe_withPassword, endpointReport_withPassword]
    refine andThen_withPassword (fun c'' found => ?_) _
    rw [apply_ite (Dialogue.withPassword p), disconnect_withPassword, isOpen_withPassword]
    refine congrArg₂ (ite _) (andThen_withPassword (fun _ _ => rfl) _) rfl

end Connection

namespace SharedConnection

theorem ensuringOpen_withPassword {next : Connection → Dialogue (Except Fault α)}
    (h : ∀ c, next (c.withPassword p) = (next c).withPassword p) (c : Connection) :
    ensuringOpen next (c.withPassword p) = (ensuringOpen next c).withPassword p := by
  unfold ensuringOpen
  rw [apply_ite (Dialogue.withPassword p), h, c.isOpen_withPassword, c.connect_withPassword]
  refine congrArg (ite _ _) (andThen_withPassword (fun c connected => ?_) _)
  cases connected with
  | error fault => rfl
  | ok => exact h c

theorem fetchAll_withPassword (sql : String) (params : Params) (c : Connection) :
    fetchAll sql params (c.withPassword p) = (fetchAll sql params c).withPassword p :=
  ensuringOpen_withPassword p (fun c => c.query_withPassword p sql params) c

end SharedConnection

/-! ## What a connection tells -/

namespace Connection
variable (c : Connection)

@[simp] theorem status_withPassword : (c.withPassword p).status = c.status := by
  unfold status withPassword
  cases c.target <;> rfl

@[simp] theorem info_withPassword : (c.withPassword p).info = c.info := by
  unfold info
  rw [status_withPassword]
  rfl

end Connection

/-! ## All calls -/

theorem Call.dialogue_withPassword (c : Connection) (call : Call) :
    call.dialogue (c.withPassword p) = (call.dialogue c).withPassword p := by
  cases call with
  | connect deadline => exact c.connectBy_withPassword p deadline
  | disconnect => exact c.disconnect_withPassword p
  | execute sql params => exact c.execute_withPassword p sql params
  | query sql params => exact c.query_withPassword p sql params
  | check deadline => exact c.check_withPassword p deadline

theorem SharedCall.dialogue_withPassword (c : Connection) (call : SharedCall) :
    call.dialogue (c.withPassword p) = (call.dialogue c).withPassword p := by
  cases call with
  | connect => exact c.connect_withPassword p
  | close => exact c.disconnect_withPassword p
  | execute sql params =>
    exact SharedConnection.ensuringOpen_withPassword p (fun c => c.execute_withPassword p sql params) c
  | fetchAll sql params => exact SharedConnection.fetchAll_withPassword p sql params c
  | fetchOne sql params =>
    change (SharedConnection.fetchAll sql params (c.withPassword p)).andThen _ = _
    rw [SharedConnection.fetchAll_withPassword]
    exact andThen_withPassword (fun _ _ => rfl) _
  | check deadline => exact c.check_withPassword p deadline
  | look => exact congrArg (done (c.withPassword p)) (c.info_withPassword p)

end OracleIntake
