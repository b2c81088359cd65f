import OracleIntake.Proofs.Connection.Endpoint
import OracleIntake.Proofs.Connection.Phases

/-!
# Checks

A check reports what it found: it succeeds exactly if a session could be opened and answered both questions, and
the endpoint in the report is that of the session that was asked. And it puts the connection back: an open one
stays as it is unless its session is lost, and a session that was opened only for the check is closed after it.

* `Truthful`: what the report of a check tells.
* `PutBack`: what a check leaves of the connection.
* `check_truthful`: so it is for every check, whatever calls were made before.
-/
namespace OracleIntake
open Dialogue Moments

namespace Connection
variable {σ : Type} {c : Connection} {w : World σ} {st : σ} {session : SessionId}

/-- The session answers both questions of a probe. -/
def Answers (w : World σ) (c : Connection) (st : σ) (found : String × String) : Prop :=
  ∃ session, c.session = some session ∧ w.probed session st = some (.ok found)

/-- The session tells in a probe that it is lost. -/
def LosesSession (w : World σ) (c : Connection) (st : σ) : Prop :=
  ∃ session f, c.session = some session ∧ w.probed session st = some (.error f) ∧
    f.effectiveKind = .sessionLost

theorem answers_iff (hs : c.session = some session) {answer : Except DriverFailure (String × String)}
    (hanswer : w.probed session st = some answer) (found : String × String) :
    c.Answers w st found ↔ answer = .ok found := by
  simp [Answers, hs, hanswer]

theorem losesSession_iff (hs : c.session = some session) {answer : Except DriverFailure (String × String)}
    (hanswer : w.probed session st = some answer) :
    c.LosesSession w st ↔ ∃ f, answer = .error f ∧ f.effectiveKind = .sessionLost := by
  simp [LosesSession, hs, hanswer]

/-- The report `r` of a check tells how it went: `cycle` is the connecting for it, `ran` the whole check, and `ms`
are the moments till the session is asked. -/
structure Truthful (w : World σ) (ms : List Moment) (cycle : Run σ (Except Fault Unit))
    (ran : Run σ CheckReport) (r : CheckReport) : Prop where
  /-- A check succeeds exactly if a session is open and answers both questions. -/
  success : r.success = true ↔
    cycle.result = some (.ok ()) ∧ ∃ found, cycle.connection.Answers w cycle.world found
  fault : r.success = true ↔ r.fault = none
  told : r.success = true ↔ r.serverVersion.isSome = true ∧ r.currentUser.isSome = true
  /-- The version and the user are told together, or neither is. -/
  together : r.serverVersion.isSome = r.currentUser.isSome
  answers : ∀ version user, cycle.result = some (.ok ()) →
    cycle.connection.Answers w cycle.world (version, user) →
    r.serverVersion = some version ∧ r.currentUser = some user
  transport : r.transport.isSome = true ↔ cycle.result = some (.ok ())
  port : r.port.isSome = true ↔ cycle.result = some (.ok ())
  /-- The session that was handed out last is the one that is asked, and the report has its endpoint. -/
  endpoint : cycle.result = some (.ok ()) → ∃ session target, latest ms = some (session, target) ∧
    cycle.connection.session = some session ∧ (∀ q ∈ Log.calls ran.log, q.session? = some session) ∧
    r.transport = some target.transport ∧ r.port = some target.port

/-- A check puts a connection back: `cycle` is the connecting for it, `ran` the whole check. -/
structure PutBack (w : World σ) (c : Connection) (cycle : Run σ (Except Fault Unit)) (ran : Run σ CheckReport)
    (r : CheckReport) : Prop where
  /-- Where a session is open, no other is asked for, and the connection stays as it is unless it is lost. -/
  opened : c.isOpen = true → Log.targets ran.log = [] ∧ Log.closes ran.log = 0 ∧
    (¬ c.LosesSession w cycle.world → ran.connection = c) ∧
    (c.LosesSession w cycle.world → ran.connection.lifecycle = .failed ∧ ran.connection.session = none)
  /-- Otherwise the report counts the sessions that were asked for, and none is held in the end. -/
  unopened : c.isOpen = false → r.attempts = (Log.targets ran.log).length ∧ ran.connection.session = none
  /-- A session that was opened for the check, and not lost, is closed once. -/
  closed : c.isOpen = false → cycle.result = some (.ok ()) → ¬ cycle.connection.LosesSession w cycle.world →
    ran.connection.lifecycle = .closed ∧ Log.closes ran.log = 1 ∧
      ∃ session, cycle.connection.session = some session ∧
        .asked (.close session) ∈ ran.log ∧ .released session ∈ ran.log
  /-- Where none could be opened, or it was lost, the connection has failed and tells why. -/
  failed : c.isOpen = false →
    cycle.result ≠ some (.ok ()) ∨ cycle.connection.LosesSession w cycle.world →
    ran.connection.lifecycle = .failed ∧ ran.connection.lastFault.isSome = true ∧ Log.closes ran.log = 0

variable {ms : List Moment} {cycle : Run σ (Except Fault Unit)} {ran : Run σ CheckReport} {r : CheckReport}

theorem checked_of_failed (hconnects : Connects c cycle) {fault : Fault}
    (hfault : cycle.result = some (.error fault)) (hr : r = reportOf { fault := some fault } cycle.connection)
    (hc : ran.connection = cycle.connection) (hlog : ran.log = cycle.log) :
    Truthful w ms cycle ran r ∧ PutBack w c cycle ran r := by
  have hnot : cycle.result ≠ some (.ok ()) := by
    rw [hfault]
    nofun
  have hopen : c.isOpen ≠ true := fun ho => hnot (hconnects.opened ho).1
  obtain ⟨hlifecycle, hsession, hlast⟩ := hconnects.failed fault hfault
  have hcloses : Log.closes cycle.log = 0 := Log.closes_eq_zero fun s => by simp [hconnects.calls]
  subst hr
  refine ⟨?truthful, ?putBack⟩
  case truthful =>
    constructor
    · exact iff_of_false nofun fun h => hnot h.1
    · exact iff_of_false nofun nofun
    · exact iff_of_false nofun fun h => Bool.noConfusion h.1
    · rfl
    · exact fun _ _ hok => absurd hok hnot
    · exact iff_of_false nofun hnot
    · exact iff_of_false nofun hnot
    · exact fun hok => absurd hok hnot
  case putBack =>
    rw [← hc] at hlifecycle hsession hlast
    rw [← hlog] at hcloses
    constructor
    · exact fun ho => absurd ho hopen
    · exact fun ho => ⟨by rw [hlog]; exact hconnects.attempts ho, hsession⟩
    · exact fun _ hok => absurd hok hnot
    · exact fun _ _ => ⟨hlifecycle, hlast, hcloses⟩

section
variable {session : SessionId} {target : Target} {probe : Run σ (Except Fault (String × String))}
  {found : Except Fault (String × String)} {es : List Event}

/-- A check that has connected reports what the probe found. -/
theorem truthful_of_connected (hconnects : Connects c cycle) (hok : cycle.result = some (.ok ()))
    (hs : cycle.connection.session = some session) (htarget : cycle.connection.target = some target)
    (hlatest : latest ms = some (session, target))
    (hprobes : Probes w cycle.world cycle.connection session probe found)
    (hrestores : Restores c.isOpen probe.connection session ran.connection es)
    (hlog : ran.log = cycle.log ++ (probe.log ++ es))
    (hr : r = reportOf (probeReport cycle.connection.endpointReport found) probe.connection) :
    Truthful w ms cycle ran r := by
  obtain ⟨sql, answer, es', hanswer, hsettles⟩ := hprobes.settles
  have hasked : ∀ q ∈ Log.calls ran.log, q.session? = some session := by
    have hclose := hrestores.views.2
    simp only [hlog, Log.calls_append, hconnects.calls, List.nil_append, List.mem_append]
    rintro q (hq | hq)
    · rcases hprobes.calls with h | h <;> simp only [h, List.mem_cons, List.not_mem_nil, or_false] at hq
      · rw [hq]; rfl
      · rcases hq with rfl | rfl <;> rfl
    · rw [hclose q hq]; rfl
  have htransport : r.transport = some target.transport := by
    cases found <;> simp [hr, reportOf, probeReport, endpointReport, htarget]
  have hport : r.port = some target.port := by
    cases found <;> simp [hr, reportOf, probeReport, endpointReport, htarget]
  have hanswers := answers_iff hs hanswer
  cases answer with
  | ok told =>
    obtain ⟨version, user⟩ := told
    obtain rfl : found = .ok (version, user) := hsettles.eq_ok
    have hversion : r.serverVersion = some version ∧ r.currentUser = some user := by
      subst hr
      exact ⟨rfl, rfl⟩
    exact {
      success := iff_of_true (by rw [hr]; rfl) ⟨hok, _, (hanswers _).2 rfl⟩
      fault := iff_of_true (by rw [hr]; rfl) (by rw [hr]; rfl)
      told := iff_of_true (by rw [hr]; rfl) (by simp [hversion])
      together := by simp [hversion]
      answers := fun _ _ _ h => by
        cases (hanswers _).1 h
        exact hversion
      transport := iff_of_true (by simp [htransport]) hok
      port := iff_of_true (by simp [hport]) hok
      endpoint := fun _ => ⟨session, target, hlatest, hs, hasked, htransport, hport⟩ }
  | error f =>
    obtain ⟨fault, rfl, -⟩ := hsettles.of_error (β := Unit)
    have hsuccess : r.success ≠ true := by simp [hr, reportOf, probeReport, endpointReport]
    have hversion : r.serverVersion = none ∧ r.currentUser = none := by
      subst hr
      exact ⟨rfl, rfl⟩
    have hunanswered : ∀ found, ¬ cycle.connection.Answers w cycle.world found := fun found h => by
      cases (hanswers found).1 h
    exact {
      success := iff_of_false hsuccess fun h => hunanswered _ h.2.choose_spec
      fault := iff_of_false hsuccess (by rw [hr]; nofun)
      told := iff_of_false hsuccess (by simp [hversion])
      together := by simp [hversion]
      answers := fun _ _ _ h => absurd h (hunanswered _)
      transport := iff_of_true (by simp [htransport]) hok
      port := iff_of_true (by simp [hport]) hok
      endpoint := fun _ => ⟨session, target, hlatest, hs, hasked, htransport, hport⟩ }

theorem putBack_of_connected (hconnects : Connects c cycle) (hok : cycle.result = some (.ok ()))
    (hs : cycle.connection.session = some session)
    (hprobes : Probes w cycle.world cycle.connection session probe found)
    (hrestores : Restores c.isOpen probe.connection session ran.connection es)
    (hlog : ran.log = cycle.log ++ (probe.log ++ es))
    (hr : r = reportOf (probeReport cycle.connection.endpointReport found) probe.connection) :
    PutBack w c cycle ran r := by
  obtain ⟨sql, answer, es', hanswer, hsettles⟩ := hprobes.settles
  have hloses := losesSession_iff hs hanswer
  have hopen := hconnects.ok hok
  have htargets : Log.targets ran.log = Log.targets cycle.log := by
    rw [hlog, Log.targets_append, Log.targets_append, hprobes.targets, hrestores.views.1]
    simp
  have hcloses : Log.closes ran.log = Log.closes es := by
    have hcycle : Log.closes cycle.log = 0 := Log.closes_eq_zero fun s => by simp [hconnects.calls]
    have hprobe : Log.closes probe.log = 0 := Log.closes_eq_zero fun s => by
      rcases hprobes.calls with h | h <;> simp [h]
    rw [hlog, Log.closes_append, Log.closes_append, hcycle, hprobe, Nat.zero_add, Nat.zero_add]
  have hunopened : ran.connection.session = none → probe.connection.progress = cycle.connection.progress →
      c.isOpen = false → r.attempts = (Log.targets ran.log).length ∧ ran.connection.session = none := by
    intro hnone hprogress ho
    refine ⟨?_, hnone⟩
    rw [hr, reportOf, hprogress, htargets]
    exact hconnects.attempts ho
  rcases hsettles.left with ⟨f, rfl, hf, fault, hbroken⟩ | ⟨hkept, hsame⟩
  · have hlost := hloses.2 ⟨f, rfl, hf⟩
    obtain ⟨hc, rfl⟩ := hrestores.keeps (.inr (by rw [hbroken]; rfl))
    rw [hbroken] at hc
    refine ⟨fun ho => ?_, hunopened (by rw [hc]; rfl) (by rw [hbroken]; rfl), fun _ _ hnot => absurd hlost hnot,
      fun _ _ => ⟨by rw [hc]; rfl, by rw [hc]; rfl, hcloses⟩⟩
    obtain ⟨-, hsame, hnil⟩ := hconnects.opened ho
    rw [hsame] at hlost
    exact ⟨by rw [htargets, hnil]; rfl, hcloses, fun hnot => absurd hlost hnot,
      fun _ => ⟨by rw [hc]; rfl, by rw [hc]; rfl⟩⟩
  · have hnot : ¬ cycle.connection.LosesSession w cycle.world := fun h => by
      obtain ⟨f, hf, hlost⟩ := hloses.1 h
      exact hkept f hf hlost
    rw [hsame] at hrestores
    cases ho : c.isOpen with
    | true =>
      obtain ⟨hc, rfl⟩ := hrestores.keeps (.inl ho)
      obtain ⟨-, hcycle, hnil⟩ := hconnects.opened ho
      rw [hcycle] at hnot hc
      have hopened : c.isOpen ≠ false := by simp [ho]
      exact ⟨fun _ => ⟨by rw [htargets, hnil]; rfl, hcloses, fun _ => hc, fun hlost => absurd hlost hnot⟩,
        fun h => absurd h hopened, fun h => absurd h hopened, fun h => absurd h hopened⟩
    | false =>
      obtain ⟨hc, rfl⟩ := hrestores.closes ho hopen
      have hclosed : c.isOpen ≠ true := by simp [ho]
      exact ⟨fun h => absurd h hclosed, hunopened (by rw [hc]; rfl) (by rw [hsame]),
        fun _ _ _ => ⟨by rw [hc]; rfl, hcloses, session, hs, by simp [hlog], by simp [hlog]⟩,
        fun _ h => absurd (h.resolve_left fun hne => hne hok) hnot⟩

end

end Connection

/-- **Checks.** Whatever its past, the check of a connection comes to a report in every world that answers; the
report is truthful, and the connection is put back. -/
theorem check_truthful {s : Settings} {past : List Moment} {c : Connection} (h : Lived s past c)
    (deadline : Option Duration) {σ : Type} (w : World σ) (st : σ) :
    (w.Attends → ((c.check deadline).run w st).result.isSome) ∧
    ∀ r, ((c.check deadline).run w st).result = some r →
      Connection.Truthful w (past ++ (c.connectBy deadline).moments w st) ((c.connectBy deadline).run w st)
        ((c.check deadline).run w st) r ∧
      Connection.PutBack w c ((c.connectBy deadline).run w st) ((c.check deadline).run w st) r := by
  refine ⟨fun hw => isSome_run_of_attends hw _ st, fun r hr => ?_⟩
  have hconnects := Connection.connects_connectBy c deadline w st
  have hlatest := ensures_run (Connection.connectBy_atLatest h.atLatest deadline) w st
  rw [Connection.check_eq_andThen, run_andThen] at hr ⊢
  generalize (c.connectBy deadline).run w st = cycle at *
  cases hresult : cycle.result with
  | none =>
    rw [Run.follow_of_none hresult] at hr
    cases hr
  | some connected =>
    rw [Run.follow_of_some hresult] at hr ⊢
    cases connected with
    | error fault =>
      cases hr
      exact Connection.checked_of_failed hconnects hresult rfl rfl (by simp [Connection.reported, run, Run.after])
    | ok _ =>
      have hopen := hconnects.ok hresult
      obtain ⟨session, target, hs, htarget, hms⟩ := hlatest hopen
      obtain ⟨session', hopen?, hs'⟩ := Connection.openSession?_of_isOpen hopen
      cases hs.symm.trans hs'
      dsimp only at hr ⊢
      rw [run_andThen] at hr ⊢
      cases hprobe : (cycle.connection.probe.run w cycle.world).result with
      | none =>
        rw [Run.follow_of_none hprobe] at hr
        cases hr
      | some found =>
        rw [Run.follow_of_some hprobe] at hr ⊢
        have hprobes := Connection.probes_probe hopen? hs hprobe
        generalize cycle.connection.probe.run w cycle.world = probe at *
        obtain ⟨hreport, hrestores⟩ := Connection.run_restore (hprobes.session_of_isOpen hs) hr
        exact ⟨Connection.truthful_of_connected hconnects hresult hs htarget hms hprobes hrestores rfl hreport,
          Connection.putBack_of_connected hconnects hresult hs hprobes hrestores rfl hreport⟩

/-- A caller gives up while the session is closed. The check that follows passes a broken secure transport, opens a
session, is told the version but not the user, and closes the session. -/
theorem check_truthful_halfClosed :
    let fresh : Connection := { settings := .guarded }
    let opened := fresh.connect.run Script.world {}
    let left := opened.connection.disconnect.run Script.world { closes := [.silent] }
    let past := fresh.connect.moments Script.world {} ++
      opened.connection.disconnect.moments Script.world { closes := [.silent] }
    let script : Script := {
      opens := [.fails Standin.tlsFailure], users := [.fails Standin.noTable] }
    let cycle := (left.connection.connectBy (some (.ofSeconds 5))).run Script.world script
    let ran := (left.connection.check (some (.ofSeconds 5))).run Script.world script
    let report : CheckReport := {
      transport := some .plain, port := some 2484, attempts := 2, anyFallback := true
      fault := some (.query Standin.noTable.text (some "current user") false) }
    left.result = none ∧ left.connection.lifecycle = .opened ∧ left.connection.isOpen = false ∧
      ran.result = some report ∧
      Connection.Truthful Script.world
        (past ++ (left.connection.connectBy (some (.ofSeconds 5))).moments Script.world script) cycle ran
        report ∧
      Connection.PutBack Script.world left.connection cycle ran report := by
  intro fresh opened left past script cycle ran report
  have hopened : Lived .guarded (fresh.connect.moments Script.world {}) opened.connection := by
    have h := (Life.fresh.connect none (s := .guarded) Script.world {}).lived
    rw [history_snoc, history_nil, List.nil_append] at h
    exact h
  have hlived : Lived .guarded past left.connection :=
    .call Script.world { closes := [.silent] } .disconnect hopened
  have hreport : ran.result = some report := by decide +kernel
  obtain ⟨htruthful, hputBack⟩ :=
    (check_truthful hlived (some (.ofSeconds 5)) Script.world script).2 report hreport
  exact ⟨by decide +kernel, by decide +kernel, by decide +kernel, hreport, htruthful, hputBack⟩

end OracleIntake
