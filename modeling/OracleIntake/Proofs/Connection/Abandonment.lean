import OracleIntake.Proofs.Connection.CycleRun
import OracleIntake.Proofs.Connection.Life
import OracleIntake.Rehearsal.Standin

/-!
# Cycles that are cut short

A connect cycle can be cut short at each of its waits: its caller gives it up, or its deadline passes. Either
way the connection has failed, holds nothing, and tells truly how far the cycle had come.

* `run_within`: a deadline that does not pass changes nothing.
* `connectBy_cutShort`: what a cycle leaves that is cut short.
-/
namespace OracleIntake
open Dialogue Moments

/-! ## Dialogues under a deadline -/

namespace Dialogue
variable {α σ : Type}

/-- No wait of the dialogue is under a deadline. -/
def Untimed : Dialogue α → Prop
  | done .. => True
  | release _ p => p.Untimed
  | await _ _ resume => ∀ a, (resume a).Untimed
  | awaitUntil .. => False

/-- The world that always answers as it does when there is this deadline. -/
def World.before (w : World σ) (deadline : Duration) : World σ where
  answer q _ st := w.answer q (some deadline) st
  elapsed := w.elapsed

/-- **In time.** A dialogue whose deadline does not pass goes as it does without the deadline. -/
theorem run_within {deadline : Duration} {late : Connection → Duration → Dialogue α} (w : World σ)
    {p : Dialogue α} (hp : p.Untimed) (st : σ)
    (hin : ∀ c q, .asked c q .late ∉ (p.within deadline late).moments w st) :
    (p.within deadline late).run w st = p.run (w.before deadline) st := by
  induction p generalizing st with
  | done c a => rfl
  | release s p ih =>
    rw [within, run, run, ih hp st fun c q hm => hin c q (List.mem_cons_of_mem _ hm)]
  | await c q resume ih =>
    rw [within, moments] at hin
    rw [within, run, run, World.before]
    rcases ha : w.answer q (some deadline) st with ⟨a | _ | _, st'⟩
    · rw [ha] at hin
      dsimp only
      rw [ih a (hp a) st' fun c' q' hm => hin c' q' (List.mem_cons_of_mem _ hm)]
      rfl
    · rw [ha] at hin
      exact absurd List.mem_cons_self (hin c q)
    · rfl
  | awaitUntil => cases hp

theorem untimed_releasing {session : Option SessionId} {p : Dialogue α} (h : p.Untimed) :
    (releasing session p).Untimed := by
  cases session <;> exact h

end Dialogue

namespace Connection

theorem untimed_cycle (retries : Nat) (target : Target) (c : Connection) :
    (cycle retries target c).Untimed := by
  induction retries generalizing target c with
  | zero =>
    rw [cycle]
    intro a
    cases a <;> trivial
  | succ retries ih =>
    rw [cycle]
    intro a
    cases a with
    | ok session => trivial
    | error f =>
      dsimp only
      split
      · exact ih _ _
      · exact fun _ => ih _ _

theorem untimed_connect (c : Connection) : c.connect.Untimed := by
  unfold connect
  split
  · trivial
  · exact untimed_releasing (untimed_cycle _ _ _)

end Connection

/-! ## Cutting a cycle short -/

theorem Moments.failures_cut {c : Connection} {q : Request} {e : Waited q.Answer}
    (he : ∀ a, e ≠ .answered a) : failures [.asked c q e] = [] := by
  cases e with
  | answered a => exact absurd rfl (he a)
  | late | givenUp => cases q <;> rfl

namespace Settings
variable {s : Settings} {timed : Bool} {ms : List Moment} {c c' : Connection} {q : Request}
  {r : Option (Except Fault Unit)}

/-- Where a cycle waits, everything before is answered. -/
theorem Waits.answered (h : s.Waits ms c q) {q' : Request} {e : Waited q'.Answer} (hm : .asked c' q' e ∈ ms) :
    ∃ a, e = .answered a := by
  cases h with
  | attempt => exact s.answered_of_mem_retried _ hm
  | pause =>
    rcases List.mem_append.1 hm with hm | hm
    · exact s.answered_of_mem_retried _ hm
    · cases List.mem_singleton.1 hm
      exact ⟨_, rfl⟩

/-- A cycle that is cut short where it waits has noted the attempts and the failures up to there. -/
theorem Waits.eq_midCycle (h : s.Waits ms c q) {e : Waited q.Answer} (he : ∀ a, e ≠ .answered a) :
    c = s.midCycle (failures (ms ++ [.asked c q e])) (attempts (ms ++ [.asked c q e])) := by
  rw [failures_append, attempts_append, failures_cut he, List.append_nil]
  cases h with
  | attempt =>
    rw [failures_retried, attempts_retried]
    rfl
  | pause =>
    rw [failures_append, failures_retried, attempts_append, attempts_retried]
    rfl

theorem Waits.abandoned_eq (h : s.Waits ms c q) {e : Waited q.Answer} (he : ∀ a, e ≠ .answered a) :
    c.abandoned = (s.midCycle (failures (ms ++ [.asked c q e])) (attempts (ms ++ [.asked c q e]))).broken
      (.cancelled (s.progressAfter (failures (ms ++ [.asked c q e])) (attempts (ms ++ [.asked c q e])))) := by
  rw [← abandoned_midCycle, ← h.eq_midCycle he]

/-- What is cut short is cut short where it waits. -/
theorem CycleRan.waits_of_cut (h : s.CycleRan timed ms c r) {e : Waited q.Answer} (he : ∀ a, e ≠ .answered a)
    (hm : .asked c' q e ∈ ms) : ∃ pre, ms = pre ++ [.asked c' q e] ∧ s.Waits pre c' q := by
  cases h with
  | opened | exhausted =>
    rcases List.mem_append.1 hm with hm | hm
    · obtain ⟨a, ha⟩ := s.answered_of_mem_retried _ hm
      exact absurd ha (he a)
    · cases List.mem_singleton.1 hm
      exact absurd rfl (he _)
  | givenUp hw | late _ _ hw =>
    rcases List.mem_append.1 hm with hm | hm
    · obtain ⟨a, ha⟩ := hw.answered hm
      exact absurd ha (he a)
    · cases List.mem_singleton.1 hm
      exact ⟨_, rfl, hw⟩

/-- How a cycle is cut short, if it is: its caller gives it up, or its deadline passes. `left` is a session that
the connection still had. -/
structure CutShort {σ : Type} (s : Settings) (left : Option SessionId) (ms : List Moment)
    (ran : Run σ (Except Fault Unit)) : Prop where
  /-- It waits for an attempt in flight, or for the time before the next attempt to pass. -/
  waits : ∀ c q e, (∀ a, e ≠ .answered a) → .asked c q e ∈ ms →
    ∃ pre, ms = left.toList.map .released ++ (pre ++ [.asked c q e]) ∧ s.Waits pre c q
  /-- Only a cycle that is given up has no result. -/
  unfinished : ran.result = none ↔ ∃ c q, .asked c q .givenUp ∈ ms
  /-- A cycle that is given up has failed by being cancelled. It tells the attempts that were started and the
  fallbacks that their failures called for. -/
  givenUp : ∀ c q, .asked c q .givenUp ∈ ms →
    ran.connection = {
      settings := s, lifecycle := .failed, progress := s.progressAfter (failures ms) (attempts ms)
      lastFault := some (.cancelled (s.progressAfter (failures ms) (attempts ms))) }
  /-- A cycle whose deadline passes has failed by a timeout, and tells the same. -/
  late : ∀ c q, .asked c q .late ∈ ms → ∃ elapsed,
    ran.result = some (.error (.timeout elapsed (s.progressAfter (failures ms) (attempts ms)))) ∧
      ran.connection = {
        settings := s, lifecycle := .failed, progress := s.progressAfter (failures ms) (attempts ms)
        lastFault := some (.timeout elapsed (s.progressAfter (failures ms) (attempts ms))) }
  /-- After either, the next cycle goes as on a connection that has not been used. -/
  afresh : ∀ c q e, (∀ a, e ≠ .answered a) → .asked c q e ∈ ms →
    ∀ deadline, ran.connection.connectBy deadline = Connection.connectBy deadline { settings := s }

theorem CycleRan.of_givenUp (h : s.CycleRan timed ms c r) (hm : .asked c' q .givenUp ∈ ms) :
    r = none ∧ c = (s.midCycle (failures ms) (attempts ms)).broken
      (.cancelled (s.progressAfter (failures ms) (attempts ms))) := by
  obtain ⟨pre, hpre, -⟩ := h.waits_of_cut (e := .givenUp) nofun hm
  cases h with
  | opened | exhausted | late =>
    obtain ⟨-, hlast⟩ := List.append_inj' hpre rfl
    cases hlast
  | givenUp hw => exact ⟨rfl, hw.abandoned_eq nofun⟩

theorem CycleRan.of_late (h : s.CycleRan timed ms c r) (hm : .asked c' q .late ∈ ms) :
    ∃ elapsed, r = some (.error (.timeout elapsed (s.progressAfter (failures ms) (attempts ms)))) ∧
      c = (s.midCycle (failures ms) (attempts ms)).broken
        (.timeout elapsed (s.progressAfter (failures ms) (attempts ms))) := by
  obtain ⟨pre, hpre, -⟩ := h.waits_of_cut (e := .late) nofun hm
  cases h with
  | opened | exhausted | givenUp =>
    obtain ⟨-, hlast⟩ := List.append_inj' hpre rfl
    cases hlast
  | @late ms c q elapsed _ hw =>
    have hprogress := congrArg Connection.progress (hw.eq_midCycle (e := .late) nofun)
    refine ⟨elapsed, ?_, ?_⟩
    · rw [hprogress]
      rfl
    · rw [hw.abandoned_eq (e := .late) nofun]
      rfl

theorem CycleRan.exists_givenUp (h : s.CycleRan timed ms c none) : ∃ c' q, .asked c' q .givenUp ∈ ms := by
  obtain ⟨pre, c', q, rfl, -, -⟩ := h.waits_of_none
  exact ⟨c', q, by simp⟩

/-- However a cycle goes, it is cut short as it should be, if it is. -/
theorem CycleRan.cutShort {σ : Type} {left : Option SessionId} {later : List Moment}
    {ran : Run σ (Except Fault Unit)} (h : s.CycleRan timed later ran.connection ran.result) :
    s.CutShort left (left.toList.map .released ++ later) ran := by
  have hfailures : failures (left.toList.map .released ++ later) = failures later := by
    cases left <;> rfl
  have hattempts : attempts (left.toList.map .released ++ later) = attempts later := by
    rw [attempts_append]
    cases left <;> simp [attempts, Moment.isAttempt]
  have hmem : ∀ {c q} {e : Waited q.Answer},
      .asked c q e ∈ left.toList.map Moment.released ++ later → .asked c q e ∈ later := by
    intro c q e hm
    simpa using hm
  constructor
  · intro c q e he hm
    obtain ⟨pre, hpre, hw⟩ := h.waits_of_cut he (hmem hm)
    exact ⟨pre, by rw [hpre], hw⟩
  · constructor
    · intro hnone
      rw [hnone] at h
      obtain ⟨c, q, hm⟩ := h.exists_givenUp
      exact ⟨c, q, List.mem_append_right _ hm⟩
    · rintro ⟨c, q, hm⟩
      exact (h.of_givenUp (hmem hm)).1
  · intro c q hm
    rw [hfailures, hattempts]
    exact (h.of_givenUp (hmem hm)).2
  · intro c q hm
    rw [hfailures, hattempts]
    exact h.of_late (hmem hm)
  · intro c q e he hm deadline
    cases e with
    | answered a => exact absurd rfl (he a)
    | late =>
      obtain ⟨_, -, hc⟩ := h.of_late (hmem hm)
      rw [hc]
      cases deadline <;> rfl
    | givenUp =>
      rw [(h.of_givenUp (hmem hm)).2]
      cases deadline <;> rfl

end Settings

/-- **Cut short.** Connecting does nothing where a session is open. A cycle that is cut short leaves a failed
connection that tells how far it had come, and the next cycle starts afresh; a cycle in time goes as if there
was no deadline. -/
theorem connectBy_cutShort (c : Connection) (deadline : Option Duration) {σ : Type} (w : World σ) (st : σ) :
    (c.isOpen = true → (c.connectBy deadline).run w st = ⟨some (.ok ()), c, [], st⟩) ∧
      (c.isOpen = false →
        c.settings.CutShort c.session ((c.connectBy deadline).moments w st) ((c.connectBy deadline).run w st)) ∧
      ∀ d, deadline = some d → (∀ c' q, .asked c' q .late ∉ (c.connectBy deadline).moments w st) →
        (c.connectBy deadline).run w st = c.connect.run (w.before d) st := by
  refine ⟨fun ho => by rw [Connection.connectBy_of_open deadline ho]; rfl, fun ho => ?_, ?_⟩
  · obtain ⟨later, hms, hran⟩ := ensures_run (Connection.connectBy_ensures_of_left deadline ho) w st
    rw [List.nil_append] at hms
    rw [hms]
    exact hran.cutShort
  · rintro d rfl hin
    exact run_within w c.untimed_connect st hin

/-- The caller gives up the wait after the first attempt, whose secure transport failed. -/
theorem connectBy_cutShort_waiting :
    ((Connection.connectBy none { settings := .guarded }).run Script.world
      { opens := [.fails Standin.tlsFailure], clock := { patient := false } }).connection =
        { settings := .guarded, lifecycle := .failed, progress := ⟨1, true, none⟩
          lastFault := some (.cancelled ⟨1, true, none⟩) } := by
  have hcut := (connectBy_cutShort { settings := .guarded } none Script.world
    { opens := [.fails Standin.tlsFailure], clock := { patient := false } }).2.1 rfl
  obtain ⟨c, q, hm⟩ := hcut.unfinished.1 (by decide +kernel)
  rw [hcut.givenUp c q hm]
  decide +kernel

end OracleIntake
