import OracleIntake.Connection.Description
import OracleIntake.Proofs.Secrecy.Calls
import OracleIntake.Rehearsal.Script

/-!
# Nobody but the driver sees the password

Take two passwords and let the driver give the same answers to both. Reading the settings, making any calls and
looking at the connection between them then comes to the same, except that each endpoint that a session is asked
at has its own password.

* `reports_withPassword`: the reports of any operations.
* `view_withPassword`: what a connection tells of itself.
* `password_unseen`: all of it.
-/
namespace OracleIntake
open Dialogue Settings

/-- An operation on a connection: a call on it, or a call of one of its holders. -/
inductive Operation where
  | own (call : Call)
  | shared (call : SharedCall)
  deriving DecidableEq, Repr

namespace Operation

def Result : Operation → Type
  | own call => call.Result
  | shared call => call.Result

def dialogue (c : Connection) : (op : Operation) → Dialogue op.Result
  | own call => call.dialogue c
  | shared call => call.dialogue c

theorem dialogue_withPassword (p : Password) (c : Connection) (op : Operation) :
    op.dialogue (c.withPassword p) = (op.dialogue c).withPassword p := by
  cases op with
  | own call => exact call.dialogue_withPassword p c
  | shared call => exact call.dialogue_withPassword p c

end Operation

structure Report (σ : Type) where
  operation : Operation
  result : Option operation.Result
  connection : Connection
  log : List Event
  world : σ

def Report.withPassword {σ : Type} (p : Password) (r : Report σ) : Report σ :=
  { r with connection := r.connection.withPassword p, log := r.log.map (·.withPassword p) }

/-- Carries out one operation after the other. -/
def reports {σ : Type} (w : World σ) (c : Connection) (st : σ) : List Operation → List (Report σ)
  | [] => []
  | op :: ops =>
    let ran := (op.dialogue c).run w st
    ⟨op, ran.result, ran.connection, ran.log, ran.world⟩ :: reports w ran.connection ran.world ops

/-- Any operations on connections with two passwords, in worlds that give the same answers to them. -/
theorem reports_withPassword {σ : Type} {p p' : Password} {w w' : World σ} (h : w.SameAnswers p p' w')
    (c : Connection) (st : σ) (ops : List Operation) :
    reports w' (c.withPassword p') st ops = (reports w (c.withPassword p) st ops).map (·.withPassword p') := by
  induction ops generalizing c st with
  | nil => rfl
  | cons op ops ih =>
    have hrun : (op.dialogue (c.withPassword p')).run w' st =
        ((op.dialogue (c.withPassword p)).run w st).withPassword p' := by
      rw [op.dialogue_withPassword, op.dialogue_withPassword, run_withPassword h]
    -- the connection that the operation leaves has the same password in it everywhere
    have hleft : ((op.dialogue (c.withPassword p)).run w st).connection =
        ((op.dialogue (c.withPassword p)).run w st).connection.withPassword p := by
      rw [op.dialogue_withPassword]
      exact congrArg Run.connection (run_withPassword (.refl p w) (op.dialogue c) st)
    simp only [reports, List.map_cons, hrun]
    refine congrArg₂ List.cons rfl ?_
    rw [hleft, ← ih]
    rfl

structure View where
  isOpen : Bool
  status : ConnectionStatus
  info : ConnectionInfo
  environment : Environment
  displayName : String
  description : String
  deriving DecidableEq, Repr

/-- The view of a connection; `id` and `driver` are its name and the driver's. -/
def Connection.view (id driver : String) (c : Connection) : View where
  isOpen := c.isOpen
  status := c.status
  info := c.info
  environment := c.settings.environment
  displayName := c.settings.target.displayName
  description := c.description id driver

@[simp] theorem Settings.environment_withPassword (s : Settings) (p : Password) :
    (s.withPassword p).environment = s.environment := by
  have hwritten : (s.withPassword p).written? = s.written? := by
    funext key
    cases key <;> rfl
  rw [environment, environment, hwritten]

theorem Connection.view_withPassword (id driver : String) (c : Connection) (p : Password) :
    (c.withPassword p).view id driver = c.view id driver := by
  have henvironment : (c.withPassword p).settings.environment = c.settings.environment :=
    c.settings.environment_withPassword p
  simp only [view, status_withPassword, info_withPassword, isOpen_withPassword, henvironment]
  rfl

/-- The settings were read, or they come from a draft. -/
def Settings.Made (s : Settings) : Prop := (∃ env, read env = .ok s) ∨ ∃ d : Draft, d.check = .ok s

theorem Settings.Made.redacted {s : Settings} (h : s.Made) :
    s.environment.text? .password = some Password.redacted := by
  have hrecorded : s.recorded.lookup .password = none := by
    rcases h with ⟨env, h⟩ | ⟨d, h⟩
    · rw [(read_ok h).2.1, lookup_recordedTexts, if_pos rfl]
    · rw [(Draft.check_ok h).2]
      rfl
  rw [text?_environment, written?, hrecorded]
  rfl

/-- **The password is not seen.** Two environments that differ in a password that is blank in neither are refused
for the same reason, or read as settings that differ in the password. Operations on connections with such
settings, of which each has a driver that gives the same answers to its password, have the same results and the
same log, but for the password of the endpoints. What a connection tells of itself does not depend on the
password; what is written of settings has it redacted, and to the driver it goes as it was read. -/
theorem password_unseen :
    (∀ (env env' : Environment) (p p' : String), AgreeExcept .password env env' →
      env.text? .password = some p → env'.text? .password = some p' →
      Text.isBlankText p = false → Text.isBlankText p' = false →
        read env' = (Settings.withPassword · ⟨p'⟩) <$> read env) ∧
    (∀ (s : Settings) (p' : Password) (σ : Type) (w w' : World σ), w.SameAnswers s.target.password p' w' →
      ∀ (st : σ) (ops : List Operation),
        reports w' { settings := s.withPassword p' } st ops =
          (reports w { settings := s } st ops).map (·.withPassword p')) ∧
    (∀ (id driver : String) (c : Connection) (p : Password),
      (c.withPassword p).view id driver = c.view id driver) ∧
    (∀ s : Settings, s.Made → s.environment.text? .password = some Password.redacted) ∧
    (∀ (env : Environment) (s : Settings), read env = .ok s →
      env.text? .password = some s.target.password.clear) := by
  refine ⟨?_, ?_, fun id driver c p => c.view_withPassword id driver p, fun s h => h.redacted,
    fun env s h => (password_of_read h).1⟩
  · intro env env' p p' hagree hp hp' hblank hblank'
    exact read_withPassword hagree hp hp' hblank hblank'
  · intro s p' σ w w' h st ops
    exact reports_withPassword h { settings := s } st ops

/-- A driver that answers as its script says to one password and not at all to any other. -/
def Script.strict (p : Password) : World Script where
  answer
    | .openSession t, deadline, s => if t.password = p then s.openSession deadline else (.givenUp, s)
    | q, deadline, s => Script.answer q deadline s
  elapsed := Script.world.elapsed

theorem Script.strict_sameAnswers (p p' : Password) : (strict p).SameAnswers p p' (strict p') where
  opens _ _ _ := (if_pos rfl).trans (if_pos rfl).symm
  others q deadline st h := by
    cases q with
    | openSession t => exact absurd rfl (h t)
    | _ => rfl
  elapsed st := rfl

/-- Two passwords, each with a driver that takes no other. -/
theorem password_unseen_strict :
    let env (password : String) : Environment := [
      ("ORACLE_HOST", "db"), ("ORACLE_PORT", "2484"), ("ORACLE_SERVICE_NAME", "XE"),
      ("ORACLE_USERNAME", "scott"), ("ORACLE_PASSWORD", password), ("ORACLE_PROTOCOL", "tcps"),
      ("ORACLE_SSL_SERVER_DN_MATCH", "true"), ("ORACLE_CONNECT_TIMEOUT", "30"), ("ORACLE_RETRY_COUNT", "1"),
      ("ORACLE_RETRY_DELAY", "1")]
    let script : Script := { opens := [.fails ⟨.listener, some 12541, "ORA-12541: TNS:no listener"⟩] }
    let ops : List Operation := [.own (.connect none), .shared .look, .own (.check none), .shared .close]
    ∃ s, Settings.read (env " tiger ") = .ok s ∧ Settings.read (env "lion") = .ok (s.withPassword ⟨"lion"⟩) ∧
      s.target.password = ⟨" tiger "⟩ ∧
      reports (Script.strict ⟨"lion"⟩) { settings := s.withPassword ⟨"lion"⟩ } script ops =
        (reports (Script.strict ⟨" tiger "⟩) { settings := s } script ops).map (·.withPassword ⟨"lion"⟩) := by
  intro env script ops
  obtain ⟨hsettings, hreports, -, -, hpassword⟩ := password_unseen
  have hread : (Settings.read (env " tiger ")).toOption.isSome = true := by decide +kernel
  have hagree : AgreeExcept .password (env " tiger ") (env "lion") := fun key hkey => by
    cases key <;> first | rfl | exact absurd rfl hkey
  have hother := hsettings _ _ " tiger " "lion" hagree (by decide) (by decide) (by decide) (by decide)
  cases hs : Settings.read (env " tiger ") with
  | error fault => rw [hs] at hread; cases hread
  | ok s =>
    rw [hs] at hother
    have htext : (env " tiger ").text? .password = some " tiger " := by decide
    have hclear : s.target.password = ⟨" tiger "⟩ :=
      congrArg Password.mk (Option.some.inj (htext.symm.trans (hpassword _ s hs))).symm
    refine ⟨s, rfl, hother, hclear, hreports s _ _ _ _ ?_ script ops⟩
    rw [hclear]
    exact Script.strict_sameAnswers _ _

end OracleIntake
