import Mathlib.Data.List.Basic
import OracleIntake.Proofs.Connection.Answers
import OracleIntake.Proofs.Failure.Telling
import OracleIntake.Rehearsal.Standin

/-!
# Statements

A statement that fails leaves the connection as it was, unless it cost the session. Then the connection has
failed and tells why, and what it had noted of its last cycle stays. Whether a message of the database says that
the session is lost is told by the first codes in it, and by its wording only where it has no code.

* `AnsweredBy`: what a statement comes to by the driver's answer.
* `statement_atomic`: a statement changes the connection only by losing its session.
* `statement_dropsByCode`: which messages cost the session.
-/
namespace OracleIntake
open Dialogue

namespace Connection
variable {σ α : Type} {c : Connection}

/-- What a statement on an open session comes to by the driver's answer. -/
structure AnsweredBy (c : Connection) (sql : String) (q : Request) (session : SessionId)
    (answer : Except DriverFailure α) (ran : Run σ (Except Fault α)) (r : Except Fault α) : Prop where
  /-- A value is handed on, and nothing changes. -/
  value : ∀ a, answer = .ok a → r = .ok a ∧ ran.connection = c ∧ ran.log = [.asked q]
  /-- A failure that leaves the session good is told by a fault that is not fatal, and nothing changes. -/
  failed : ∀ f, answer = .error f → f.effectiveKind ≠ .sessionLost →
    r = .error (.query f.text (some sql) false) ∧ ran.connection = c ∧ ran.log = [.asked q]
  /-- A lost session is let go and told by a fatal fault, which stays on the connection. -/
  lost : ∀ f, answer = .error f → f.effectiveKind = .sessionLost →
    r = .error (.query f.text (some sql) true) ∧
      ran.connection = { c with
        lifecycle := .failed, session := none, target := none
        lastFault := some (.query f.text (some sql) true) } ∧
      ran.log = [.asked q, .released session]

structure CarriedOut (w : World σ) (st : σ) (c : Connection) (sql : String) (i : Inquiry α)
    (ran : Run σ (Except Fault α)) (r : Except Fault α) : Prop where
  /-- Where no session is open the driver is not called, and nothing changes. -/
  unopened : c.isOpen = false → ran = ⟨some (.error .notConnected), c, [], st⟩
  /-- An open session is asked once, and its answer decides. -/
  opened : c.isOpen = true → ∃ session a, c.session = some session ∧
    w.answer (i.request session) none st = (.answered a, ran.world) ∧
    AnsweredBy c sql (i.request session) session (cast (i.answer_eq session) a) ran r
  /-- The fault is fatal exactly if the statement took the connection from open to failed. -/
  fatal : (∃ fault, r = .error fault ∧ fault.isFatal = true) ↔
    c.isOpen = true ∧ ran.connection.lifecycle = .failed

theorem Settles.answeredBy {sql : String} {q : Request} {session : SessionId}
    {answer : Except DriverFailure α} {ran : Run σ (Except Fault α)} {r : Except Fault α} {es : List Event}
    (h : Settles sql c session answer r ran.connection es) (hlog : ran.log = .asked q :: es) :
    AnsweredBy c sql q session answer ran r := by
  generalize hc : ran.connection = c' at h
  cases h with
  | value a => exact ⟨fun _ ha => ⟨by cases ha; rfl, hc, hlog⟩, nofun, nofun⟩
  | failed hf =>
    refine ⟨nofun, fun _ ha _ => ⟨by cases ha; rfl, hc, hlog⟩, fun _ ha hlost => ?_⟩
    cases ha
    exact absurd hlost hf
  | lost hf =>
    refine ⟨nofun, fun _ ha hkept => ?_, fun _ ha _ => ?_⟩
    · cases ha
      exact absurd hf hkept
    · cases ha
      exact ⟨rfl, hc, hlog⟩

variable {w : World σ} {st : σ} {sql : String} {i : Inquiry α}

/-- A fatal fault comes of a statement exactly if it takes the connection from open to failed. -/
theorem inquire_fatal_iff :
    (∃ fault, ((c.inquire sql i).run w st).result = some (.error fault) ∧ fault.isFatal = true) ↔
      c.isOpen = true ∧ ((c.inquire sql i).run w st).connection.lifecycle = .failed := by
  cases ho : c.isOpen with
  | false =>
    rw [run_inquire_of_not_isOpen ho]
    simp [Fault.isFatal]
  | true =>
    obtain ⟨session, hopen, hs⟩ := openSession?_of_isOpen ho
    cases hr : ((c.inquire sql i).run w st).result with
    | none =>
      rw [run_inquire_of_none hopen hs (abandoned_of_isOpen ho) hr]
      simp [lifecycle_of_isOpen ho]
    | some r =>
      obtain ⟨a, es, -, -, hsettles⟩ := run_inquire hopen hs hr
      simpa using hsettles.fatal_iff (lifecycle_of_isOpen ho)

theorem carriedOut_inquire {r : Except Fault α} (hr : ((c.inquire sql i).run w st).result = some r) :
    CarriedOut w st c sql i ((c.inquire sql i).run w st) r where
  unopened ho := run_inquire_of_not_isOpen ho w st sql i
  opened ho := by
    obtain ⟨session, hopen, hs⟩ := openSession?_of_isOpen ho
    obtain ⟨a, es, hanswer, hlog, hsettles⟩ := run_inquire hopen hs hr
    exact ⟨session, a, hs, hanswer, hsettles.answeredBy hlog⟩
  fatal := by
    rw [← inquire_fatal_iff, hr]
    simp

end Connection

/-! ## Statements in a course of calls -/

/-- A call of a course, with what it came to and the connection before and after it. -/
structure MadeCall where
  call : Call
  before : Connection
  result : Option call.Result
  after : Connection

namespace MadeCall

def IsStatement (m : MadeCall) : Prop :=
  (∃ sql params, m.call = .execute sql params) ∨ ∃ sql params, m.call = .query sql params

/-- The call is a statement that came to a fatal fault. -/
def IsFatal : MadeCall → Prop
  | ⟨.execute .., _, result, _⟩ => ∃ fault, result = some (.error fault) ∧ fault.isFatal = true
  | ⟨.query .., _, result, _⟩ => ∃ fault, result = some (.error fault) ∧ fault.isFatal = true
  | _ => False

end MadeCall

namespace Course
variable {σ : Type}

def make (w : World σ) (x : Course σ) (call : Call) : MadeCall :=
  let (result, y) := x.hold w fun c => call.dialogue c
  ⟨call, x.connection, result, y.connection⟩

/-- The calls of a course that makes one after the other. -/
def made (w : World σ) (x : Course σ) : List Call → List MadeCall
  | [] => []
  | call :: calls => x.make w call :: made w (x.hold w fun c => call.dialogue c).2 calls

/-- **One call.** -/
theorem isFatal_make (w : World σ) (x : Course σ) {call : Call} (h : (x.make w call).IsStatement) :
    (x.make w call).IsFatal ↔
      (x.make w call).before.isOpen = true ∧ (x.make w call).after.lifecycle = .failed := by
  cases call with
  | execute sql params => exact Connection.inquire_fatal_iff (i := .execute sql params)
  | query sql params => exact Connection.inquire_fatal_iff (i := .query sql params)
  | connect | disconnect | check => obtain ⟨_, _, h⟩ | ⟨_, _, h⟩ := h <;> cases h

/-- **All calls.** Throughout a course the fatal faults of statements tell the sessions that were lost. -/
theorem isFatal_of_mem_made (w : World σ) {x : Course σ} {calls : List Call} {m : MadeCall}
    (hm : m ∈ x.made w calls) (h : m.IsStatement) :
    m.IsFatal ↔ m.before.isOpen = true ∧ m.after.lifecycle = .failed := by
  induction calls generalizing x with
  | nil => cases hm
  | cons call calls ih =>
    rcases List.mem_cons.1 hm with rfl | hm
    · exact isFatal_make w x h
    · exact ih hm

end Course

/-- **Statements.** Whatever state a connection is in, a statement that comes to a result, as it does in every
world that answers, is carried out; and throughout a course of calls a statement comes to a fatal fault exactly
if it takes the connection from open to failed. -/
theorem statement_atomic (c : Connection) (sql : String) (params : Params) {σ : Type} (w : World σ) (st : σ) :
    (w.Attends → ((c.execute sql params).run w st).result.isSome ∧
      ((c.query sql params).run w st).result.isSome) ∧
    (∀ r, ((c.execute sql params).run w st).result = some r →
      Connection.CarriedOut w st c sql (.execute sql params) ((c.execute sql params).run w st) r) ∧
    (∀ r, ((c.query sql params).run w st).result = some r →
      Connection.CarriedOut w st c sql (.query sql params) ((c.query sql params).run w st) r) ∧
    ∀ (x : Course σ) (calls : List Call), ∀ m ∈ x.made w calls, m.IsStatement →
      (m.IsFatal ↔ m.before.isOpen = true ∧ m.after.lifecycle = .failed) := by
  refine ⟨fun hw => ⟨isSome_run_of_attends hw _ st, isSome_run_of_attends hw _ st⟩, fun r hr => ?_,
    fun r hr => ?_, fun x calls m hm h => Course.isFatal_of_mem_made w hm h⟩
  · rw [Connection.execute_eq_inquire] at hr ⊢
    exact Connection.carriedOut_inquire hr
  · rw [Connection.query_eq_inquire] at hr ⊢
    exact Connection.carriedOut_inquire hr

/-- On an open session one statement fails and leaves it good, the next tells its loss by the message alone, and
the last one is not sent any more. -/
theorem statement_atomic_toldByMessage :
    let c : Connection := Connection.established { settings := .guarded, progress := { attempts := 1 } } 7
      Settings.guarded.target
    let script : Script := { executes := [.fails Standin.noTable], queries := [.fails Standin.untoldLoss] }
    let kept : Run Script (Except Fault Nat) := (c.execute "delete from stage" .none).run Script.world script
    let lost : Run Script (Except Fault (List Row)) :=
      (kept.connection.query "select 1 from dual" .none).run Script.world kept.world
    let refused : Run Script (Except Fault Nat) :=
      (lost.connection.execute "commit" .none).run Script.world lost.world
    let statement : Fault := .query Standin.noTable.text (some "delete from stage") false
    let fatal : Fault := .query Standin.untoldLoss.text (some "select 1 from dual") true
    kept.result = some (.error statement) ∧ lost.result = some (.error fatal) ∧
      refused.result = some (.error .notConnected) ∧
      Connection.CarriedOut Script.world script c "delete from stage" (.execute "delete from stage" .none) kept
        (.error statement) ∧
      Connection.CarriedOut Script.world kept.world kept.connection "select 1 from dual"
        (.query "select 1 from dual" .none) lost (.error fatal) ∧
      Connection.CarriedOut Script.world lost.world lost.connection "commit" (.execute "commit" .none) refused
        (.error .notConnected) ∧
      ∀ m ∈ Course.made Script.world ⟨c, script, []⟩
          [.execute "delete from stage" .none, .query "select 1 from dual" .none, .execute "commit" .none],
        m.IsStatement → (m.IsFatal ↔ m.before.isOpen = true ∧ m.after.lifecycle = .failed) := by
  intro c script kept lost refused statement fatal
  have hkept : kept.result = some (.error statement) := by decide +kernel
  have hlost : lost.result = some (.error fatal) := by decide +kernel
  have hrefused : refused.result = some (.error .notConnected) := by decide +kernel
  exact ⟨hkept, hlost, hrefused,
    (statement_atomic c "delete from stage" .none Script.world script).2.1 _ hkept,
    (statement_atomic kept.connection "select 1 from dual" .none Script.world kept.world).2.2.1 _ hlost,
    (statement_atomic lost.connection "commit" .none Script.world lost.world).2.1 _ hrefused,
    (statement_atomic c "commit" .none Script.world script).2.2.2 _ _⟩

/-! ## Messages that cost the session -/

namespace Connection
variable {σ α : Type} {c : Connection}

/-- A failed statement with this message costs an open connection its session as the message tells. -/
structure DropsByCode (message : String) (c : Connection) (session : SessionId)
    (ran : Run σ (Except Fault α)) : Prop where
  /-- The session is let go and the connection has failed exactly if the message tells that it is lost. -/
  drops : (ran.connection.session = none ∧ ran.connection.lifecycle = .failed ∧ .released session ∈ ran.log) ↔
    VendorCode.TellsSessionLoss message
  /-- Otherwise the connection stays as it is. -/
  keeps : ¬ VendorCode.TellsSessionLoss message → ran.connection = c ∧ .released session ∉ ran.log
  /-- Where the first code of the server is another one, and the client tells no loss either, the wording of the
  message plays no part. -/
  unlisted : ∀ code, VendorCode.server? message = some code → code ∉ VendorCode.sessionLostCodes →
    VendorCode.client? message ≠ some 1010 → VendorCode.client? message ≠ some 1080 →
    ran.connection = c ∧ .released session ∉ ran.log
  /-- The caller is told by a fault, which is fatal exactly if the session is lost. -/
  result : ∃ fault, ran.result = some (.error fault) ∧
    (fault.isFatal = true ↔ VendorCode.TellsSessionLoss message)

theorem dropsByCode_inquire {w : World σ} {st st' : σ} {sql : String} {i : Inquiry α} (message : String)
    {session : SessionId} (hopen : c.isOpen = true) (hs : c.session = some session)
    {a : (i.request session).Answer} (ha : w.answer (i.request session) none st = (.answered a, st'))
    (hmessage : cast (i.answer_eq session) a = .error (VendorCode.statementFailure message)) :
    DropsByCode message c session ((c.inquire sql i).run w st) := by
  obtain ⟨session', hopen?, hs'⟩ := openSession?_of_isOpen hopen
  cases hs.symm.trans hs'
  obtain ⟨r, es, hr, -, hlog, hsettles⟩ := run_inquire_of_answered sql hopen? hs ha
  have hanswered := hsettles.answeredBy hlog
  rw [hmessage] at hanswered
  have hkept : ¬ VendorCode.TellsSessionLoss message →
      ((c.inquire sql i).run w st).connection = c ∧ .released session ∉ ((c.inquire sql i).run w st).log := by
    intro hnot
    obtain ⟨-, hc, hlog⟩ := hanswered.failed _ rfl (mt VendorCode.effectiveKind_statementFailure_iff.1 hnot)
    exact ⟨hc, by simp [hlog]⟩
  by_cases hlost : VendorCode.TellsSessionLoss message
  · obtain ⟨rfl, hc, hlog⟩ := hanswered.lost _ rfl (VendorCode.effectiveKind_statementFailure_iff.2 hlost)
    refine ⟨iff_of_true ⟨by rw [hc], by rw [hc], by simp [hlog]⟩ hlost, hkept, ?_,
      _, hr, iff_of_true rfl hlost⟩
    intro code hcode hlisted hunconnected hclosed
    exact absurd hlost (VendorCode.not_tellsSessionLoss hcode hlisted hunconnected hclosed)
  · obtain ⟨hc, hreleased⟩ := hkept hlost
    obtain ⟨rfl, -, -⟩ := hanswered.failed _ rfl (mt VendorCode.effectiveKind_statementFailure_iff.1 hlost)
    exact ⟨iff_of_false (fun h => hreleased h.2.2) hlost, hkept, fun _ _ _ _ _ => ⟨hc, hreleased⟩,
      _, hr, iff_of_false (by simp [Fault.isFatal]) hlost⟩

end Connection

/-- **Codes before words.** A statement that fails with a message costs an open connection its session exactly if
the codes of the message tell so, or its wording where it has no code of the server. -/
theorem statement_dropsByCode {c : Connection} (hopen : c.isOpen = true) (message sql : String) (params : Params)
    {σ : Type} (w : World σ) (st : σ) :
    ∃ session, c.session = some session ∧
      (∀ st', w.answer (.execute session sql params) none st =
          (.answered (.error (VendorCode.statementFailure message)), st') →
        Connection.DropsByCode message c session ((c.execute sql params).run w st)) ∧
      ∀ st', w.answer (.query session sql params) none st =
          (.answered (.error (VendorCode.statementFailure message)), st') →
        Connection.DropsByCode message c session ((c.query sql params).run w st) := by
  obtain ⟨session, -, hs⟩ := Connection.openSession?_of_isOpen hopen
  refine ⟨session, hs, fun st' ha => ?_, fun st' ha => ?_⟩
  · rw [Connection.execute_eq_inquire]
    exact Connection.dropsByCode_inquire message hopen hs ha rfl
  · rw [Connection.query_eq_inquire]
    exact Connection.dropsByCode_inquire message hopen hs ha rfl

/-- The first code of the server speaks for the session, whatever another one and the wording say; a code of the
client speaks against it, whatever the server's code says. -/
theorem statement_dropsByCode_contradictory :
    let c : Connection := Connection.established { settings := .guarded } 7 Settings.guarded.target
    let kept := "ORA-00942: no table\nORA-03113: end-of-file on communication channel"
    let dropped := "DPI-1080: connection was closed by ORA-00942"
    let script : Script := {
      executes := [.fails (VendorCode.statementFailure kept)]
      queries := [.fails (VendorCode.statementFailure dropped)] }
    let first : Run Script (Except Fault Nat) := (c.execute "commit" .none).run Script.world script
    let second : Run Script (Except Fault (List Row)) :=
      (c.query "select 1 from dual" .none).run Script.world script
    Connection.DropsByCode kept c 7 first ∧ Connection.DropsByCode dropped c 7 second ∧
      first.connection = c ∧ second.connection.session = none ∧ second.connection.lifecycle = .failed := by
  intro c kept dropped script first second
  have hopen : c.isOpen = true := rfl
  obtain ⟨session, hs, hexecute, -⟩ :=
    statement_dropsByCode hopen kept "commit" .none Script.world script
  obtain ⟨session', hs', -, hquery⟩ :=
    statement_dropsByCode hopen dropped "select 1 from dual" .none Script.world script
  cases hs
  cases hs'
  exact ⟨hexecute _ rfl, hquery _ rfl, by decide +kernel, by decide +kernel, by decide +kernel⟩

end OracleIntake
