import OracleIntake.Connection.Shared
import OracleIntake.Proofs.Connection.Answers
import OracleIntake.Proofs.Connection.ClosedForm
import OracleIntake.Proofs.Connection.Custody
import OracleIntake.Proofs.Dialogue.Sequence

/-!
# The delivery of a statement

A statement that goes through a shared connection is sent once or, if no session can be opened for it, not at
all. One connect cycle is run for it at most, before it is sent; whatever the driver answers to the statement,
no session is asked for after it, and it is not sent again.

* `Delivered`: how a statement is delivered.
* `statement_delivered`: so every statement is delivered, whatever state the connection is in.
-/
namespace OracleIntake
open Dialogue Moments

namespace Connection
variable {σ α : Type} {c : Connection}

/-- How connecting comes out that runs to its end. -/
structure Connected (c : Connection) (cycle : Run σ (Except Fault Unit)) : Prop where
  /-- An open connection is left as it is. -/
  opened : c.isOpen = true → cycle.result = some (.ok ()) ∧ cycle.connection = c ∧ cycle.log = []
  /-- Nothing is sent to a session. -/
  calls : Log.calls cycle.log = []
  pos : c.isOpen = false → 0 < (Log.targets cycle.log).length
  le : (Log.targets cycle.log).length ≤ c.settings.retry.maxAttempts
  /-- The last attempt gives a session, or the cycle fails without one. -/
  outcome :
    (cycle.result = some (.ok ()) ∧ cycle.connection.isOpen = true ∧
        (c.isOpen = false → (Log.sessions cycle.log).length = 1)) ∨
      ((∃ f, cycle.result = some (.error (.connection f))) ∧ Log.sessions cycle.log = [])

/-- What the log of a finished cycle shows; `left` is a session that the connection still had. -/
theorem connected_of_ran (left : Option SessionId) {later : List Moment} {cycle : Run σ (Except Fault Unit)}
    {r : Except Fault Unit} (hopen : c.isOpen = false)
    (hran : c.settings.CycleRan false later cycle.connection (some r)) (hr : cycle.result = some r)
    (hlog : cycle.log = events (left.toList.map .released ++ later)) : Connected c cycle := by
  have hleft : Log.targets (events (left.toList.map .released)) = [] ∧
      Log.sessions (events (left.toList.map .released)) = [] ∧
      Log.calls (events (left.toList.map .released)) = [] := by
    cases left <;> exact ⟨rfl, rfl, rfl⟩
  have htargets : (Log.targets cycle.log).length = attempts later := by
    rw [hlog, events_append, Log.targets_append, hleft.1, List.nil_append, length_targets_events]
  have hsessions : Log.sessions cycle.log = (outcomes later).filterMap Except.toOption := by
    rw [hlog, events_append, Log.sessions_append, hleft.2.1, List.nil_append, sessions_events]
  have hcalls : Log.calls cycle.log = [] := by
    rw [hlog, events_append, Log.calls_append, hleft.2.2, List.nil_append]
    exact calls_events fun m hm => hran.asks_none hm
  -- the attempts that failed come first, and the last one decides
  obtain ⟨fs, x, hlt, hlast, hms, hend⟩ := hran.finished
  have hattempts : attempts later = fs.length + 1 := by
    rw [hms, attempts_append, Settings.attempts_retried]
    rfl
  have hnone : (fs.map (Except.error (α := SessionId))).filterMap Except.toOption = [] := by
    simp [List.filterMap_map, Function.comp_def, Except.toOption]
  have houtcomes : outcomes later = fs.map .error ++ [x] := by
    rw [hms, Settings.outcomes_finished]
  refine ⟨fun ho => ?_, hcalls, fun _ => by omega, by omega, ?_⟩
  · rw [hopen] at ho
    cases ho
  · rw [hsessions, houtcomes, List.filterMap_append, hnone]
    cases x with
    | ok session =>
      obtain ⟨hc, rfl⟩ := Prod.mk.inj hend
      exact .inl ⟨hr, by rw [hc]; rfl, fun _ => rfl⟩
    | error f =>
      obtain ⟨-, rfl⟩ := Prod.mk.inj hend
      exact .inr ⟨⟨_, hr⟩, rfl⟩

/-- **Connecting.** Connecting that runs to its end makes no attempt or one cycle of them, and opens a session
or fails. -/
theorem connected_of_result {w : World σ} {st : σ} {r : Except Fault Unit}
    (hr : (c.connect.run w st).result = some r) : Connected c (c.connect.run w st) := by
  cases ho : c.isOpen with
  | true =>
    have hconnect : c.connect = .done c (.ok ()) := connectBy_of_open none ho
    rw [hconnect]
    exact ⟨fun _ => ⟨rfl, rfl, rfl⟩, rfl, fun hf => by (rw [ho] at hf; cases hf), Nat.zero_le _,
      .inl ⟨rfl, ho, fun hf => by rw [ho] at hf; cases hf⟩⟩
  | false =>
    obtain ⟨later, hms, hran⟩ := ensures_run (connectBy_ensures_of_left none ho) w st
    change c.settings.CycleRan false later (c.connect.run w st).connection (c.connect.run w st).result at hran
    rw [hr] at hran
    refine connected_of_ran c.session ho hran hr ?_
    rw [← hms]
    exact log_eq_events w _ st

end Connection

/-! ## Statements -/

namespace SharedConnection
variable {σ α : Type} {c : Connection}

/-- Asks the session of a connection, which is opened if need be. -/
def inquire (c : Connection) (sql : String) (i : Inquiry α) : Dialogue (Except Fault α) :=
  ensuringOpen (fun c => c.inquire sql i) c

theorem execute_eq_inquire (sql : String) (params : Params) :
    execute sql params c = inquire c sql (.execute sql params) := rfl

theorem fetchAll_eq_inquire (sql : String) (params : Params) :
    fetchAll sql params c = inquire c sql (.query sql params) := rfl

/-- What follows the connecting for a call. -/
def onceConnected (next : Connection → Dialogue (Except Fault α)) (c : Connection) :
    Except Fault Unit → Dialogue (Except Fault α)
  | .ok () => next c
  | .error fault => .done c (.error fault)

/-- To ensure that a connection is open is to connect, which does nothing where it is. -/
theorem ensuringOpen_eq_andThen (next : Connection → Dialogue (Except Fault α)) (c : Connection) :
    ensuringOpen next c = c.connect.andThen (onceConnected next) := by
  unfold ensuringOpen
  split
  · rename_i ho
    have hconnect : c.connect = .done c (.ok ()) := Connection.connectBy_of_open none ho
    rw [hconnect]
    rfl
  · congr 1
    funext c r
    cases r <;> rfl

/-- How a statement is delivered that came to the result `r`: `cycle` is the connecting for it, and `ran` the
whole call. -/
structure Delivered (w : World σ) (c : Connection) (sql : String) (i : Inquiry α)
    (cycle : Run σ (Except Fault Unit)) (ran : Run σ (Except Fault α)) (r : Except Fault α) : Prop where
  /-- An open connection stays as it is, and no session is asked for. -/
  reuses : c.isOpen = true →
    cycle.result = some (.ok ()) ∧ cycle.connection = c ∧ cycle.log = [] ∧ Log.targets ran.log = []
  /-- Otherwise one cycle is run, with as many attempts as the policy allows at most, and nothing but the cycle
  asks for a session. -/
  connects : c.isOpen = false →
    0 < (Log.targets cycle.log).length ∧ (Log.targets cycle.log).length ≤ c.settings.retry.maxAttempts ∧
      Log.targets ran.log = Log.targets cycle.log
  /-- The cycle opens a session, or it fails with a fault of its own. -/
  outcome : cycle.result = some (.ok ()) ∧ cycle.connection.isOpen = true ∨
    ∃ f, cycle.result = some (.error (.connection f))
  /-- Once there is a session, the statement is sent to it once. The answer to it settles the call. -/
  sent : cycle.result = some (.ok ()) → ∃ session a es, cycle.connection.session = some session ∧
    Log.calls ran.log = [i.request session] ∧ ran.log = cycle.log ++ .asked (i.request session) :: es ∧
    w.answer (i.request session) none cycle.world = (.answered a, ran.world) ∧
    Connection.Settles sql cycle.connection session (cast (i.answer_eq session) a) r ran.connection es
  /-- Without a session it is not sent, and the call comes to what the cycle came to. -/
  unsent : ∀ fault, cycle.result = some (.error fault) → Log.calls ran.log = [] ∧
    ran = ⟨some (.error fault), cycle.connection, cycle.log, cycle.world⟩ ∧ r = .error fault
  /-- Nobody is told to connect first. -/
  told : r ≠ .error .notConnected

variable {w : World σ} {st : σ} {sql : String} {i : Inquiry α} {cycle : Run σ (Except Fault Unit)}
  {ran : Run σ (Except Fault α)} {r : Except Fault α}

theorem delivered_of_opened (hconnected : Connection.Connected c cycle) (hok : cycle.result = some (.ok ()))
    (hopen : cycle.connection.isOpen = true)
    (hran : ran = ((cycle.connection.inquire sql i).run w cycle.world).after cycle.log)
    (hr : ran.result = some r) : Delivered w c sql i cycle ran r := by
  obtain ⟨session, hopen?, hs⟩ := Connection.openSession?_of_isOpen hopen
  rw [hran] at hr
  obtain ⟨a, es, hanswer, hlog, hsettles⟩ := Connection.run_inquire hopen? hs hr
  obtain ⟨hestargets, hescalls, -⟩ := hsettles.views
  have hranlog : ran.log = cycle.log ++ .asked (i.request session) :: es := by
    rw [hran, ← hlog]
    rfl
  have htargets : Log.targets ran.log = Log.targets cycle.log := by
    rw [hranlog, Log.targets_append, Log.targets_asked (i.session_eq session), hestargets, List.append_nil]
  have hcalls : Log.calls ran.log = [i.request session] := by
    rw [hranlog, Log.calls_append, hconnected.calls, Log.calls_asked (i.session_eq session), hescalls]
    rfl
  constructor
  · intro ho
    obtain ⟨-, hc, hnil⟩ := hconnected.opened ho
    exact ⟨hok, hc, hnil, by rw [htargets, hnil]; rfl⟩
  · exact fun ho => ⟨hconnected.pos ho, hconnected.le, htargets⟩
  · exact .inl ⟨hok, hopen⟩
  · intro _
    rw [hran] at hranlog hcalls ⊢
    exact ⟨session, a, es, hs, hcalls, hranlog, hanswer, hsettles⟩
  · intro fault hfault
    rw [hok] at hfault
    cases hfault
  · exact hsettles.told

theorem delivered_of_failed (hconnected : Connection.Connected c cycle) {f : ConnectFailure}
    (hf : cycle.result = some (.error (.connection f)))
    (hran : ran = ⟨some (.error (.connection f)), cycle.connection, cycle.log, cycle.world⟩)
    (hr : ran.result = some r) : Delivered w c sql i cycle ran r := by
  rw [hran] at hr
  cases Option.some.inj hr
  constructor
  · intro ho
    rw [(hconnected.opened ho).1] at hf
    cases hf
  · exact fun ho => ⟨hconnected.pos ho, hconnected.le, by rw [hran]⟩
  · exact .inr ⟨f, hf⟩
  · intro hok
    rw [hok] at hf
    cases hf
  · intro fault hfault
    rw [hf] at hfault
    cases hfault
    exact ⟨by rw [hran]; exact hconnected.calls, hran, rfl⟩
  · nofun

theorem delivered_inquire (hr : ((inquire c sql i).run w st).result = some r) :
    Delivered w c sql i (c.connect.run w st) ((inquire c sql i).run w st) r := by
  have hrun : (inquire c sql i).run w st = (c.connect.run w st).follow fun c connected =>
      (onceConnected (fun c => c.inquire sql i) c connected).run w := by
    rw [inquire, ensuringOpen_eq_andThen, run_andThen]
  -- the connecting was not given up, or else the call would have no result
  cases hres : (c.connect.run w st).result with
  | none =>
    rw [hrun, Run.follow_of_none hres] at hr
    cases hr
  | some connected =>
    have hconnected := Connection.connected_of_result hres
    rw [Run.follow_of_some hres] at hrun
    rcases hconnected.outcome with ⟨hok, hopen, -⟩ | ⟨⟨f, hf⟩, -⟩
    · cases Option.some.inj (hres.symm.trans hok)
      exact delivered_of_opened hconnected hok hopen hrun hr
    · cases Option.some.inj (hres.symm.trans hf)
      refine delivered_of_failed hconnected hf (hrun.trans ?_) hr
      simp [onceConnected, run, Run.after]

end SharedConnection

/-- **Delivery.** Whatever state a shared connection is in, a statement that comes to a result, as it does in
every world that answers, is delivered once at most; fetching one row does what fetching all rows does, and gives
the first of them. -/
theorem statement_delivered (c : Connection) (sql : String) (params : Params) {σ : Type} (w : World σ) (st : σ) :
    (w.Attends → ((SharedConnection.execute sql params c).run w st).result.isSome ∧
      ((SharedConnection.fetchAll sql params c).run w st).result.isSome) ∧
    (∀ r, ((SharedConnection.execute sql params c).run w st).result = some r →
      SharedConnection.Delivered w c sql (.execute sql params) (c.connect.run w st)
        ((SharedConnection.execute sql params c).run w st) r) ∧
    (∀ r, ((SharedConnection.fetchAll sql params c).run w st).result = some r →
      SharedConnection.Delivered w c sql (.query sql params) (c.connect.run w st)
        ((SharedConnection.fetchAll sql params c).run w st) r) ∧
    (SharedConnection.fetchOne sql params c).run w st =
      ((SharedConnection.fetchAll sql params c).run w st).map (Except.map List.head?) := by
  refine ⟨fun hw => ⟨isSome_run_of_attends hw _ st, isSome_run_of_attends hw _ st⟩, fun r hr => ?_,
    fun r hr => ?_, run_andThen_done ..⟩
  · rw [SharedConnection.execute_eq_inquire] at hr ⊢
    exact SharedConnection.delivered_inquire hr
  · rw [SharedConnection.fetchAll_eq_inquire] at hr ⊢
    exact SharedConnection.delivered_inquire hr

/-- The secure transport fails, the second attempt opens a session, and the statement loses it; then nothing
listens any more, and a query comes to the fault of its cycle. -/
theorem statement_delivered_lost :
    let c : Connection := { settings := .guarded }
    let script : Script := {
      opens := [.fails Standin.tlsFailure, .gives ()], otherwise := .fails Standin.refused
      executes := [.fails Standin.lostSession] }
    let lost : Run Script (Except Fault Nat) :=
      (SharedConnection.execute "delete from stage" .none c).run Script.world script
    let refused : Run Script (Except Fault (List Row)) :=
      (SharedConnection.fetchAll "select 1 from dual" .none lost.connection).run Script.world lost.world
    let fatal : Fault := .query Standin.lostSession.text (some "delete from stage") true
    let down : Fault := .connection ⟨⟨5, false, some 1521⟩, Standin.refused⟩
    lost.result = some (.error fatal) ∧ refused.result = some (.error down) ∧
      SharedConnection.Delivered Script.world c "delete from stage" (.execute "delete from stage" .none)
        (c.connect.run Script.world script) lost (.error fatal) ∧
      SharedConnection.Delivered Script.world lost.connection "select 1 from dual"
        (.query "select 1 from dual" .none) (lost.connection.connect.run Script.world lost.world) refused
        (.error down) := by
  intro c script lost refused fatal down
  have hlost : lost.result = some (.error fatal) := by decide +kernel
  have hrefused : refused.result = some (.error down) := by decide +kernel
  exact ⟨hlost, hrefused, (statement_delivered c "delete from stage" .none Script.world script).2.1 _ hlost,
    (statement_delivered lost.connection "select 1 from dual" .none Script.world lost.world).2.2.1 _ hrefused⟩

end OracleIntake
