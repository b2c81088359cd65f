import OracleIntake.Proofs.Connection.Abandonment
import OracleIntake.Proofs.Connection.Answers
import OracleIntake.Proofs.Connection.Custody
import OracleIntake.Proofs.Dialogue.Sequence

/-!
# The phases of a check

A check connects, probes the session that is open then, and closes it if it was opened only for the check. What
each of the three comes to.

* `connects_connectBy`: the connecting, with or without a deadline.
* `probes_probe`: the two questions of a probe.
* `run_restore`: the end.
-/
namespace OracleIntake
open Dialogue Moments

/-! ## The connecting of a check -/

namespace Log
variable {log : List Event}

@[simp] theorem closes_append (es fs : List Event) : closes (es ++ fs) = closes es + closes fs :=
  List.countP_append

theorem closes_eq_zero (h : ∀ s, .close s ∉ calls log) : closes log = 0 := by
  refine List.countP_eq_zero.2 fun e he => ?_
  split
  · next s =>
    exact fun _ => h s (List.mem_filterMap.2 ⟨_, he, rfl⟩)
  · simp

end Log

theorem Settings.CycleRan.progress_attempts {s : Settings} {timed : Bool} {ms : List Moment} {c : Connection}
    {r : Option (Except Fault Unit)} (h : s.CycleRan timed ms c r) : c.progress.attempts = attempts ms := by
  cases h with
  | opened | exhausted =>
    rw [attempts_append, attempts_retried]
    rfl
  | givenUp hw =>
    rw [hw.abandoned_eq (e := .givenUp) nofun]
    rfl
  | late elapsed _ hw =>
    rw [hw.abandoned_eq (e := .late) nofun]
    rfl

namespace Connection
variable {σ : Type} {c : Connection} {w : World σ} {st : σ}

structure Connects (c : Connection) (cycle : Run σ (Except Fault Unit)) : Prop where
  /-- An open connection is left as it is. -/
  opened : c.isOpen = true → cycle.result = some (.ok ()) ∧ cycle.connection = c ∧ cycle.log = []
  /-- Otherwise the attempts are counted. -/
  attempts : c.isOpen = false → cycle.connection.progress.attempts = (Log.targets cycle.log).length
  /-- Nothing is sent to a session. -/
  calls : Log.calls cycle.log = []
  ok : cycle.result = some (.ok ()) → cycle.connection.isOpen = true
  failed : ∀ fault, cycle.result = some (.error fault) → cycle.connection.lifecycle = .failed ∧
    cycle.connection.session = none ∧ cycle.connection.lastFault.isSome

theorem connects_connectBy (c : Connection) (deadline : Option Duration) (w : World σ) (st : σ) :
    Connects c ((c.connectBy deadline).run w st) := by
  cases ho : c.isOpen with
  | true =>
    rw [connectBy_of_open deadline ho]
    exact ⟨fun _ => ⟨rfl, rfl, rfl⟩, fun hf => by (rw [ho] at hf; cases hf), rfl, fun _ => ho, nofun⟩
  | false =>
    obtain ⟨later, hms, hran⟩ := ensures_run (connectBy_ensures_of_left deadline ho) w st
    have hleft : Log.targets (events (c.session.toList.map .released)) = [] ∧
        Log.calls (events (c.session.toList.map .released)) = [] := by
      cases c.session <;> exact ⟨rfl, rfl⟩
    have hlog : ((c.connectBy deadline).run w st).log =
        events (c.session.toList.map .released) ++ events later := by
      rw [log_eq_events, ← events_append, ← hms]
      rfl
    refine ⟨fun ht => ?_, fun _ => ?_, ?_, ?_, ?_⟩
    · rw [ho] at ht
      cases ht
    · rw [hran.progress_attempts, hlog, Log.targets_append, hleft.1, List.nil_append, length_targets_events]
    · rw [hlog, Log.calls_append, hleft.2, List.nil_append]
      exact calls_events fun m hm => hran.asks_none hm
    · intro hok
      rw [hok] at hran
      generalize ((c.connectBy deadline).run w st).connection = c' at hran ⊢
      cases hran
      rfl
    · intro fault hfault
      rw [hfault] at hran
      generalize ((c.connectBy deadline).run w st).connection = c' at hran ⊢
      cases hran <;> exact ⟨rfl, rfl, rfl⟩

end Connection

/-! ## The probe of a check -/

/-- What a session answers to the two questions of a probe: the version and the user, or the failure of the first
question that fails. -/
def Dialogue.World.probed {σ : Type} (w : World σ) (session : SessionId) (st : σ) :
    Option (Except DriverFailure (String × String)) :=
  match w.answer (.serverVersion session) none st with
  | (.answered (.error f), _) => some (.error f)
  | (.answered (.ok version), st) =>
    match w.answer (.currentUser session) none st with
    | (.answered (.error f), _) => some (.error f)
    | (.answered (.ok user), _) => some (.ok (version, user))
    | _ => none
  | _ => none

namespace Connection
variable {σ : Type} {c : Connection} {w : World σ} {st : σ} {session : SessionId}

/-- How the probe of an open session comes out that came to `found`. -/
structure Probes (w : World σ) (st : σ) (c : Connection) (session : SessionId)
    (ran : Run σ (Except Fault (String × String))) (found : Except Fault (String × String)) : Prop where
  /-- The answers of the session decide. -/
  settles : ∃ sql answer es, w.probed session st = some answer ∧
    Settles sql c session answer found ran.connection es
  /-- The session is asked for the version, and for the user if it told the version. -/
  calls : Log.calls ran.log = [.serverVersion session] ∨
    Log.calls ran.log = [.serverVersion session, .currentUser session]
  targets : Log.targets ran.log = []

/-- A failure settles a call alike whatever was asked for. -/
theorem Settles.of_error {α β : Type} {sql : String} {f : DriverFailure} {r : Except Fault α} {c' : Connection}
    {es : List Event} (h : Settles sql c session (.error f : Except DriverFailure α) r c' es) :
    ∃ fault, r = .error fault ∧
      Settles sql c session (.error f : Except DriverFailure β) (.error fault) c' es := by
  cases h with
  | failed hf => exact ⟨_, rfl, .failed hf⟩
  | lost hf => exact ⟨_, rfl, .lost hf⟩

theorem Settles.eq_ok {α : Type} {sql : String} {a : α} {r : Except Fault α} {c' : Connection} {es : List Event}
    (h : Settles sql c session (.ok a) r c' es) : r = .ok a := by
  cases h
  rfl

/-- An answer that tells a loss breaks the connection, and any other leaves it as it is. -/
theorem Settles.left {α : Type} {sql : String} {answer : Except DriverFailure α} {r : Except Fault α}
    {c' : Connection} {es : List Event} (h : Settles sql c session answer r c' es) :
    (∃ f, answer = .error f ∧ f.effectiveKind = .sessionLost ∧ ∃ fault, c' = c.broken fault) ∨
      (∀ f, answer = .error f → f.effectiveKind ≠ .sessionLost) ∧ c' = c := by
  cases h with
  | value a => exact .inr ⟨nofun, rfl⟩
  | failed hf =>
    refine .inr ⟨fun f h => ?_, rfl⟩
    cases h
    exact hf
  | lost hf => exact .inl ⟨_, rfl, hf, _, rfl⟩

/-- What follows the version in a probe. -/
def probeUser (c : Connection) (version : String) : Dialogue (Except Fault (String × String)) :=
  (c.inquire "current user" .user).andThen fun
    | c, .error fault => .done c (.error fault)
    | c, .ok user => .done c (.ok (version, user))

theorem probe_eq_andThen : c.probe = (c.inquire "server version" .version).andThen fun
    | c, .error fault => .done c (.error fault)
    | c, .ok version => c.probeUser version := rfl

theorem run_probeUser (hopen : c.openSession? = some session) (hs : c.session = some session) (version : String)
    {found : Except Fault (String × String)} (hr : ((c.probeUser version).run w st).result = some found) :
    ∃ (a : Except DriverFailure String) (es : List Event),
      (w.answer (.currentUser session) none st).1 = .answered a ∧
      ((c.probeUser version).run w st).log = .asked (.currentUser session) :: es ∧
      Settles "current user" c session (a.map (version, ·)) found ((c.probeUser version).run w st).connection
        es := by
  rw [probeUser, run_andThen] at hr ⊢
  cases huser : ((c.inquire "current user" .user).run w st).result with
  | none =>
    rw [Run.follow_of_none huser] at hr
    cases hr
  | some r =>
    rw [Run.follow_of_some huser] at hr ⊢
    obtain ⟨a, es, hanswer, hlog, hsettles⟩ : ∃ (a : Except DriverFailure String) (es : List Event),
        w.answer (.currentUser session) none st =
          (.answered a, ((c.inquire "current user" .user).run w st).world) ∧
        ((c.inquire "current user" .user).run w st).log = .asked (.currentUser session) :: es ∧
        Settles "current user" c session a r ((c.inquire "current user" .user).run w st).connection es :=
      run_inquire hopen hs huser
    refine ⟨a, es, by rw [hanswer], ?_, ?_⟩
    · cases r <;> simpa [run, Run.after] using hlog
    · cases a with
      | ok user =>
        generalize ((c.inquire "current user" .user).run w st).connection = c' at hr hsettles ⊢
        cases hsettles
        cases hr
        exact .value _
      | error f =>
        obtain ⟨fault, rfl, hfailed⟩ := hsettles.of_error (β := String × String)
        cases hr
        simpa [run, Run.after, Except.map] using hfailed

theorem probes_probe (hopen : c.openSession? = some session) (hs : c.session = some session)
    {found : Except Fault (String × String)} (hr : (c.probe.run w st).result = some found) :
    Probes w st c session (c.probe.run w st) found := by
  rw [probe_eq_andThen, run_andThen] at hr ⊢
  cases hversion : ((c.inquire "server version" .version).run w st).result with
  | none =>
    rw [Run.follow_of_none hversion] at hr
    cases hr
  | some r =>
    rw [Run.follow_of_some hversion] at hr ⊢
    obtain ⟨a, es, hanswer, hlog, hsettles⟩ : ∃ (a : Except DriverFailure String) (es : List Event),
        w.answer (.serverVersion session) none st =
          (.answered a, ((c.inquire "server version" .version).run w st).world) ∧
        ((c.inquire "server version" .version).run w st).log = .asked (.serverVersion session) :: es ∧
        Settles "server version" c session a r
          ((c.inquire "server version" .version).run w st).connection es :=
      run_inquire hopen hs hversion
    obtain ⟨htargets, hcalls, -⟩ := hsettles.views
    generalize ((c.inquire "server version" .version).run w st) = ran at *
    cases a with
    | error f =>
      obtain ⟨fault, rfl, hfailed⟩ := hsettles.of_error (β := String × String)
      cases hr
      refine ⟨⟨"server version", .error f, es, ?_, ?_⟩, .inl ?_, ?_⟩
      · simp [World.probed, hanswer]
      · simpa [run, Run.after] using hfailed
      · simp [run, Run.after, hlog, Log.calls_asked (q := .serverVersion session) rfl, hcalls]
      · simp [run, Run.after, hlog, Log.targets_asked (q := .serverVersion session) rfl, htargets]
    | ok version =>
      rcases ran with ⟨result, c', log, st'⟩
      cases hsettles
      dsimp only at hr hlog hanswer ⊢
      obtain ⟨a, es, huser, huserlog, hsettles⟩ := run_probeUser hopen hs version hr
      obtain ⟨hestargets, hescalls, -⟩ := hsettles.views
      refine ⟨⟨_, a.map (version, ·), es, ?_, hsettles⟩, .inr ?_, ?_⟩
      · rcases hnext : w.answer (.currentUser session) none st' with ⟨waited, st''⟩
        rw [hnext] at huser
        dsimp only at huser
        cases a <;> simp [World.probed, hanswer, hnext, huser, Except.map]
      · simp [Run.after, hlog, huserlog, Log.calls_asked (q := .serverVersion session) rfl,
          Log.calls_asked (q := .currentUser session) rfl, hescalls]
      · simp [Run.after, hlog, huserlog, Log.targets_asked (q := .serverVersion session) rfl,
          Log.targets_asked (q := .currentUser session) rfl, hestargets]

theorem Probes.session_of_isOpen {ran : Run σ (Except Fault (String × String))}
    {found : Except Fault (String × String)} (h : Probes w st c session ran found) (hs : c.session = some session)
    (ho : ran.connection.isOpen = true) : ran.connection.session = some session := by
  obtain ⟨sql, answer, es, -, hsettles⟩ := h.settles
  rcases hsettles.left with ⟨f, -, -, fault, hc⟩ | ⟨-, hc⟩
  · rw [hc] at ho
    cases ho
  · rw [hc, hs]

/-! ## The end of a check -/

/-- The end of a check: the session is closed if it was opened only for the check. -/
def restore (wasOpen : Bool) (r : CheckReport) (c : Connection) : Dialogue CheckReport :=
  if !wasOpen && c.isOpen then c.disconnect.andThen fun c _ => reported r c
  else reported r c

theorem check_eq_andThen (c : Connection) (deadline : Option Duration) :
    c.check deadline = (c.connectBy deadline).andThen fun
      | c₁, .error fault => reported { fault := some fault } c₁
      | c₁, .ok () => c₁.probe.andThen fun c₂ found =>
        restore c.isOpen (probeReport c₁.endpointReport found) c₂ := rfl

/-- What the report tells in the end. -/
def reportOf (r : CheckReport) (c : Connection) : CheckReport :=
  { r with attempts := c.progress.attempts, anyFallback := c.progress.anyFallback }

/-- A session that was opened for the check is closed once. -/
theorem run_restore_of_open {r r' : CheckReport} (ho : c.isOpen = true) (hs : c.session = some session)
    (hr : ((restore false r c).run w st).result = some r') :
    r' = reportOf r c ∧ ((restore false r c).run w st).connection = c.closed ∧
      ((restore false r c).run w st).log = [.asked (.close session), .released session] := by
  have hrestore : restore false r c = .await { c with session := none } (.close session) fun _ =>
      .release session (reported r c.closed) := by
    simp [restore, ho, disconnect, hs, andThen]
  rw [hrestore, run] at hr ⊢
  rcases ha : w.answer (.close session) none st with ⟨a | _ | _, st'⟩
  · rw [ha] at hr
    cases hr
    exact ⟨rfl, rfl, rfl⟩
  · rw [ha] at hr
    cases hr
  · rw [ha] at hr
    cases hr

/-- A connection that was open before is left as it is, and so is one whose session is lost. -/
theorem run_restore_of_kept {wasOpen : Bool} {r : CheckReport} (h : wasOpen = true ∨ c.isOpen = false) :
    (restore wasOpen r c).run w st = ⟨some (reportOf r c), c, [], st⟩ := by
  have hrestore : restore wasOpen r c = reported r c := by
    rcases h with h | h <;> simp [restore, h]
  rw [hrestore]
  rfl

/-- How the end of a check goes on from the connection `c` that the probe leaves. -/
structure Restores (wasOpen : Bool) (c : Connection) (session : SessionId) (left : Connection) (es : List Event) :
    Prop where
  closes : wasOpen = false → c.isOpen = true →
    left = c.closed ∧ es = [.asked (.close session), .released session]
  keeps : wasOpen = true ∨ c.isOpen = false → left = c ∧ es = []

/-- At the end of a check no session is asked for, and only the one that was asked is closed. -/
theorem Restores.views {wasOpen : Bool} {left : Connection} {es : List Event}
    (h : Restores wasOpen c session left es) :
    Log.targets es = [] ∧ ∀ q ∈ Log.calls es, q = .close session := by
  cases hkeeps : wasOpen || !c.isOpen with
  | true =>
    rw [(h.keeps (by simpa using hkeeps)).2]
    exact ⟨rfl, nofun⟩
  | false =>
    simp only [Bool.or_eq_false_iff, Bool.not_eq_false'] at hkeeps
    rw [(h.closes hkeeps.1 hkeeps.2).2]
    exact ⟨rfl, fun _ => List.mem_singleton.1⟩

theorem run_restore {wasOpen : Bool} {r r' : CheckReport} (hs : c.isOpen = true → c.session = some session)
    (hr : ((restore wasOpen r c).run w st).result = some r') :
    r' = reportOf r c ∧ Restores wasOpen c session ((restore wasOpen r c).run w st).connection
      ((restore wasOpen r c).run w st).log := by
  cases hkeeps : wasOpen || !c.isOpen with
  | true =>
    rw [run_restore_of_kept (by simpa using hkeeps)] at hr ⊢
    cases hr
    exact ⟨rfl, fun hwas ho => by simp [hwas, ho] at hkeeps, fun _ => ⟨rfl, rfl⟩⟩
  | false =>
    simp only [Bool.or_eq_false_iff, Bool.not_eq_false'] at hkeeps
    obtain ⟨rfl, ho⟩ := hkeeps
    obtain ⟨hreport, hc, hlog⟩ := run_restore_of_open ho (hs ho) hr
    exact ⟨hreport, fun _ _ => ⟨hc, hlog⟩, by simp [ho]⟩

end Connection
end OracleIntake
