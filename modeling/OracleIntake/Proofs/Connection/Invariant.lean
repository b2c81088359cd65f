import OracleIntake.Proofs.Connection.CycleRun
import OracleIntake.Proofs.Connection.Parts
import OracleIntake.Rehearsal.Standin

/-!
# The invariant of a connection

What holds of a connection between its calls, whatever they were and whatever the driver answered: how its
state, session, endpoint, notes and last fault go together.

* `Sound`: the invariant.
* `call_sound`: every call keeps it, however it ends short of being given up while a session is closed.
* `life_sound`: so it holds throughout a life.
-/
namespace OracleIntake
open Dialogue

/-- What holds of a connection with these settings between its calls. -/
structure Connection.Sound (s : Settings) (c : Connection) : Prop where
  settings : c.settings = s
  /-- No cycle is in progress. -/
  atRest : c.lifecycle ≠ .connecting
  session : c.lifecycle = .opened ↔ c.session.isSome
  target : c.lifecycle = .opened ↔ c.target.isSome
  openFault : c.lifecycle = .opened → c.lastFault = none
  openAttempts : c.lifecycle = .opened →
    1 ≤ c.progress.attempts ∧ c.progress.attempts ≤ s.retry.maxAttempts
  /-- The open session is at the first endpoint of a cycle, but for the fallbacks that are noted. -/
  openTarget : c.lifecycle = .opened → c.target = some (s.target.fallenBack c.progress)
  /-- A failed connection has the fault of a cycle, or one that cost it the session. -/
  failedFault : c.lifecycle = .failed → ∃ f, c.lastFault = some f ∧ (f.progress?.isSome ∨ f.isFatal)
  /-- The fault of a cycle tells what is noted of the cycle. -/
  faultProgress : ∀ f p, c.lastFault = some f → f.progress? = some p → p = c.progress
  plainTried : c.progress.plainTried → s.target.transport = .secure
  portTried : ∀ port, c.progress.portTried = some port → s.fallbackPort = some port ∧ port ≠ s.target.port

namespace Settings
variable {s : Settings} {fs : List DriverFailure} {n : Nat}

theorem secure_of_plainAfter (h : s.plainAfter fs = true) : s.target.transport = .secure := by
  simp only [plainAfter, Bool.and_eq_true] at h
  cases ht : s.target.transport with
  | secure => rfl
  | plain => simp [ht, Transport.isSecure] at h

theorem of_portAfter {port : UInt16} (h : s.portAfter fs = some port) :
    s.fallbackPort = some port ∧ port ≠ s.target.port := by
  simp only [portAfter, otherPort] at h
  split at h
  · obtain ⟨h1, h2⟩ := Option.filter_eq_some_iff.1 h
    exact ⟨h1, by simpa using h2⟩
  · cases h

theorem sound_established (session : SessionId) (h1 : 1 ≤ n) (hn : n ≤ s.retry.maxAttempts) :
    ((s.midCycle fs n).established session (s.targetAfter fs)).Sound s where
  settings := rfl
  atRest := by simp [Connection.established]
  session := by simp [Connection.established]
  target := by simp [Connection.established]
  openFault _ := rfl
  openAttempts _ := ⟨h1, hn⟩
  openTarget _ := congrArg some (s.targetAfter_eq fs n)
  failedFault h := by cases h
  faultProgress f p h := by cases h
  plainTried h := secure_of_plainAfter h
  portTried port h := of_portAfter h

theorem sound_broken {f : Fault} (hf : f.progress? = some (s.progressAfter fs n)) :
    ((s.midCycle fs n).broken f).Sound s where
  settings := rfl
  atRest := by simp [Connection.broken]
  session := by simp [Connection.broken]
  target := by simp [Connection.broken]
  openFault h := by cases h
  openAttempts h := by cases h
  openTarget h := by cases h
  failedFault _ := ⟨f, rfl, .inl (by simp [hf])⟩
  faultProgress f' p h hp := by
    cases h
    rw [hf] at hp
    exact (Option.some.inj hp).symm
  plainTried h := secure_of_plainAfter h
  portTried port h := of_portAfter h

theorem Waits.midCycle {ms : List Moment} {c : Connection} {q : Request} (h : s.Waits ms c q) :
    ∃ fs n, c = s.midCycle fs n := by
  cases h with
  | attempt => exact ⟨_, _, rfl⟩
  | pause => exact ⟨_, _, rfl⟩

/-- However a cycle goes, it leaves a sound connection. -/
theorem CycleRan.sound {timed : Bool} {ms : List Moment} {c : Connection} {r : Option (Except Fault Unit)}
    (h : s.CycleRan timed ms c r) : c.Sound s := by
  cases h with
  | opened hlt => exact sound_established _ (by omega) (by omega)
  | exhausted => exact sound_broken rfl
  | givenUp hw =>
    obtain ⟨fs, n, rfl⟩ := hw.midCycle
    rw [abandoned_midCycle]
    exact sound_broken rfl
  | late elapsed _ hw =>
    obtain ⟨fs, n, rfl⟩ := hw.midCycle
    rw [abandoned_midCycle]
    exact sound_broken (f := .timeout elapsed (s.progressAfter fs n)) rfl

end Settings

namespace Connection
variable {s : Settings} {c : Connection}

theorem sound_fresh (s : Settings) : ({ settings := s } : Connection).Sound s := by
  constructor <;> simp

theorem Sound.isOpen (h : c.Sound s) : c.isOpen = true ↔ c.lifecycle = .opened := by
  simp only [Connection.isOpen, Bool.and_eq_true, beq_iff_eq]
  exact ⟨And.left, fun ho => ⟨ho, h.session.1 ho⟩⟩

theorem Sound.eq_none (h : c.Sound s) (ho : c.isOpen = false) : c.session = none ∧ c.target = none := by
  have hne : c.lifecycle ≠ .opened := fun he => by rw [h.isOpen.2 he] at ho; cases ho
  constructor
  · simpa using fun hs => hne (h.session.2 hs)
  · simpa using fun ht => hne (h.target.2 ht)

theorem Sound.abandoned (h : c.Sound s) : c.abandoned = c := by
  simp [Connection.abandoned, h.atRest]

theorem Sound.closed (h : c.Sound s) : c.closed.Sound s where
  settings := h.settings
  atRest := by simp [Connection.closed]
  session := by simp [Connection.closed]
  target := by simp [Connection.closed]
  openFault ho := by cases ho
  openAttempts ho := by cases ho
  openTarget ho := by cases ho
  failedFault ho := by cases ho
  faultProgress := h.faultProgress
  plainTried := h.plainTried
  portTried := h.portTried

theorem Sound.broken (h : c.Sound s) {f : Fault} (hf : f.isFatal = true) (hp : f.progress? = none) :
    (c.broken f).Sound s where
  settings := h.settings
  atRest := by simp [Connection.broken]
  session := by simp [Connection.broken]
  target := by simp [Connection.broken]
  openFault ho := by cases ho
  openAttempts ho := by cases ho
  openTarget ho := by cases ho
  failedFault _ := ⟨f, rfl, .inr hf⟩
  faultProgress f' p hf' hp' := by
    cases hf'
    rw [hp] at hp'
    cases hp'
  plainTried := h.plainTried
  portTried := h.portTried

/-! ## The calls -/

theorem connectBy_sound (h : c.Sound s) (deadline : Option Duration) :
    (c.connectBy deadline).Ensures (orderlyPost fun _ c => c.Sound s) [] := by
  cases ho : c.isOpen with
  | true =>
    rw [connectBy_of_open deadline ho]
    exact fun _ => h
  | false =>
    have hran := connectBy_ensures deadline ho (h.eq_none ho).1
    rw [h.settings] at hran
    exact hran.mono fun _ _ _ hr _ => hr.sound

theorem inquire_sound {α : Type} {past : List Moment} (h : c.Sound s) (sql : String) (i : Inquiry α) :
    (c.inquire sql i).Ensures (orderlyPost fun _ c => c.Sound s) past := by
  refine withSession_ensures (fun _ => h) fun session _ _ => ⟨fun _ => ?_, fun a => ?_⟩
  · rw [h.abandoned]; exact h
  · exact settle_ensures (fun _ _ _ => h) fun _ _ hfatal hprogress _ => h.broken hfatal hprogress

theorem disconnect_sound {past : List Moment} (h : c.Sound s) :
    c.disconnect.Ensures (orderlyPost fun _ c => c.Sound s) past := by
  unfold disconnect
  split
  · rename_i session _
    exact ⟨fun ho => absurd rfl (orderly_givenUp.1 ho session), fun _ _ => h.closed⟩
  · exact fun _ => h.closed

theorem keeps_sound (s : Settings) : Keeps fun _ c => c.Sound s where
  connects deadline h := connectBy_sound h deadline
  inquires sql i h := inquire_sound h sql i
  disconnects h := disconnect_sound h

/-- **One call.** Every call keeps the invariant. -/
theorem call_sound (h : c.Sound s) (call : Call) :
    (call.dialogue c).Ensures (orderlyPost fun _ c => c.Sound s) [] :=
  (keeps_sound s).call h call

theorem sound_of_reachable (h : Reachable s c) : c.Sound s :=
  h.keeps (sound_fresh s) fun call _ hc => call_sound hc call

/-- A connect cycle waits for no session to be closed, so it is orderly wherever it is given up. -/
theorem orderly_connectBy (h : c.Sound s) (deadline : Option Duration) {σ : Type} (w : World σ) (st : σ) :
    Orderly ((c.connectBy deadline).moments w st) ((c.connectBy deadline).run w st).result.isSome := by
  suffices hpost : (c.connectBy deadline).Ensures (fun ms _ r => Orderly ms r.isSome) [] from
    ensures_run hpost w st
  cases ho : c.isOpen with
  | true =>
    rw [connectBy_of_open deadline ho]
    exact orderly_finished _
  | false =>
    refine (connectBy_ensures deadline ho (h.eq_none ho).1).mono fun ms c' r hr => ?_
    cases hr with
    | opened | exhausted | late => exact orderly_finished _
    | givenUp hw =>
      refine orderly_givenUp.2 fun session => ?_
      cases hw <;> nofun

end Connection

/-- A life goes on with a connect cycle, which may be given up at each of its waits. -/
theorem Life.connect {s : Settings} {past : List Episode} {c : Connection} (h : Life s past c)
    (deadline : Option Duration) {σ : Type} (w : World σ) (st : σ) :
    Life s (past ++ [⟨.connect deadline, c, ((Call.connect deadline).dialogue c).moments w st⟩])
      (((Call.connect deadline).dialogue c).run w st).connection := by
  refine .call w st (.connect deadline) h ?_
  exact Connection.orderly_connectBy (Connection.sound_of_reachable ⟨past, h⟩) deadline w st

/-- **The invariant.** Throughout its life a connection is sound between its calls. -/
theorem life_sound {s : Settings} {past : List Episode} {c : Connection} (h : Life s past c) :
    c.Sound s ∧ ∀ e ∈ past, e.before.Sound s := by
  refine ⟨Connection.sound_of_reachable ⟨past, h⟩, ?_⟩
  induction h with
  | fresh => exact fun _ he => absurd he List.not_mem_nil
  | call w st call hbefore _ ih =>
    intro e he
    rcases List.mem_append.1 he with he | he
    · exact ih e he
    · cases List.mem_singleton.1 he
      exact Connection.sound_of_reachable ⟨_, hbefore⟩

/-- One cycle is given up, one passes its deadline, and the session of the third is lost while it is checked. -/
theorem life_sound_lostInCheck :
    (Course.makeAll Script.world
      ⟨{ settings := .guarded }, { opens := [.silent, .silent], versions := [.fails Standin.lostSession] },
        []⟩
      [.connect none, .connect (some (.ofSeconds 5)), .check none]).connection.Sound .guarded := by
  obtain ⟨past, hlife, -⟩ := life_makeAll Script.world
    [.connect none, .connect (some (.ofSeconds 5)), .check none]
    (x := ⟨{ settings := .guarded }, { opens := [.silent, .silent], versions := [.fails Standin.lostSession] },
        []⟩)
    .fresh rfl
    ⟨Connection.orderly_connectBy (Connection.sound_fresh _) none _ _, .inl (by decide +kernel),
      .inl (by decide +kernel), trivial⟩
  exact (life_sound hlife).1

end OracleIntake
