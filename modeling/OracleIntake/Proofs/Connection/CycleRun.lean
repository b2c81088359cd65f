import Mathlib.Data.List.Basic
import Mathlib.Data.List.Induction
import OracleIntake.Connection.Cycle
import OracleIntake.Proofs.Connection.Fallbacks
import OracleIntake.Proofs.Dialogue.Ensures

/-!
# How a connect cycle can go

All ways in which a connect cycle can go, with or without a deadline: its moments, the connection and the
result, told by the settings and the failures that it met. Whoever states a property of cycles goes through
these few cases and not through the loop.

* `CycleRan`: the cases.
* `connectBy_ensures`: there are no others.
-/
namespace OracleIntake
open Dialogue Moments

namespace RetryPolicy

theorem maxAttempts_pos (p : RetryPolicy) : 0 < p.maxAttempts := by
  simp only [maxAttempts, maxCount, max32]; omega

theorem maxAttempts_le (p : RetryPolicy) : p.maxAttempts ≤ max32 := by
  simp only [maxAttempts, maxCount]; omega

end RetryPolicy

namespace Settings
variable (s : Settings) (fs : List DriverFailure)

/-- The attempt that follows these failures. -/
def attempt (ending : Waited (Except DriverFailure SessionId)) : Moment :=
  .asked (s.midCycle fs (fs.length + 1)) (.openSession (s.targetAfter fs)) ending

/-- The wait after the last of these failures, if there is a time to wait. -/
def pause : List Moment :=
  if (s.retry.delayBefore fs.length).isZero then []
  else [.asked (s.midCycle fs fs.length) (.wait (s.retry.delayBefore fs.length)) (.answered ())]

/-- The moments of a cycle up to the attempt that follows these failures. -/
def retried : List Moment :=
  fs.zipIdx.flatMap fun (f, i) => s.attempt (fs.take i) (.answered (.error f)) :: s.pause (fs.take (i + 1))

@[simp] theorem retried_nil : s.retried [] = [] := rfl

theorem retried_snoc (f : DriverFailure) :
    s.retried (fs ++ [f]) = s.retried fs ++ s.attempt fs (.answered (.error f)) :: s.pause (fs ++ [f]) := by
  simp only [retried, List.zipIdx_append, List.flatMap_append, Nat.zero_add, List.zipIdx_singleton,
    List.flatMap_singleton, List.take_left, List.take_length_add_append, List.take_succ_cons, List.take_zero]
  congr 1
  apply List.flatMap_congr
  rintro ⟨g, i⟩ hg
  have hi : i < fs.length := by simpa using (List.mem_zipIdx hg).2.1
  rw [List.take_append_of_le_length (by omega), List.take_append_of_le_length (by omega)]

theorem outcomes_pause : outcomes (s.pause fs) = [] := by
  unfold pause; split <;> rfl

theorem attempts_pause : attempts (s.pause fs) = 0 := by
  unfold pause; split <;> rfl

theorem outcomes_retried : outcomes (s.retried fs) = fs.map .error := by
  induction fs using List.reverseRecOn with
  | nil => rfl
  | append_singleton fs f ih =>
    rw [retried_snoc, outcomes_append, ih, List.map_append, List.map_singleton, ← List.singleton_append,
      outcomes_append, outcomes_pause]
    rfl

theorem outcomes_finished (x : Except DriverFailure SessionId) :
    outcomes (s.retried fs ++ [s.attempt fs (.answered x)]) = fs.map .error ++ [x] := by
  rw [outcomes_append, outcomes_retried]
  rfl

theorem failures_retried : failures (s.retried fs) = fs := by
  rw [failures, outcomes_retried, List.filterMap_map]
  exact List.filterMap_some

theorem attempts_retried : attempts (s.retried fs) = fs.length := by
  induction fs using List.reverseRecOn with
  | nil => rfl
  | append_singleton fs f ih =>
    rw [retried_snoc, attempts_append, ih, ← List.singleton_append, attempts_append, attempts_pause,
      List.length_append]
    rfl

theorem mem_retried {m : Moment} (h : m ∈ s.retried fs) :
    ∃ gs, gs.length ≤ fs.length ∧
      ((gs.length < fs.length ∧ ∃ f, m = s.attempt gs (.answered (.error f))) ∨ m ∈ s.pause gs) := by
  simp only [retried, List.mem_flatMap, Prod.exists] at h
  obtain ⟨f, i, hi, h⟩ := h
  have hlt : i < fs.length := by simpa using (List.mem_zipIdx hi).2.1
  rcases List.mem_cons.1 h with h | h
  · exact ⟨fs.take i, List.length_take_le' .., .inl ⟨by rw [List.length_take]; omega, f, h⟩⟩
  · exact ⟨fs.take (i + 1), List.length_take_le' .., .inr h⟩

theorem eq_of_mem_pause {m : Moment} (h : m ∈ s.pause fs) :
    m = .asked (s.midCycle fs fs.length) (.wait (s.retry.delayBefore fs.length)) (.answered ()) := by
  unfold pause at h
  split at h
  · cases h
  · exact List.mem_singleton.1 h

theorem answered_of_mem_retried {c : Connection} {q : Request} {e : Waited q.Answer}
    (h : .asked c q e ∈ s.retried fs) : ∃ a, e = .answered a := by
  obtain ⟨gs, -, ⟨-, f, h⟩ | h⟩ := s.mem_retried fs h
  · cases h
    exact ⟨_, rfl⟩
  · cases s.eq_of_mem_pause gs h
    exact ⟨_, rfl⟩

/-- A cycle waits for an answer, after some moments and with the connection as told. -/
inductive Waits : List Moment → Connection → Request → Prop where
  /-- An attempt is in flight. -/
  | attempt {fs : List DriverFailure} :
    fs.length < s.retry.maxAttempts →
    Waits (s.retried fs) (s.midCycle fs (fs.length + 1)) (.openSession (s.targetAfter fs))
  /-- The time before the next attempt passes. -/
  | pause {fs : List DriverFailure} {f : DriverFailure} :
    fs.length + 1 < s.retry.maxAttempts →
    (s.retry.delayBefore (fs.length + 1)).isZero = false →
    Waits (s.retried fs ++ [s.attempt fs (.answered (.error f))]) (s.midCycle (fs ++ [f]) (fs.length + 1))
      (.wait (s.retry.delayBefore (fs.length + 1)))

/-- How a cycle may go; if it is timed, its deadline may pass. -/
inductive CycleRan (timed : Bool) : Post (Except Fault Unit) where
  /-- The attempt after some failures succeeds. -/
  | opened {fs : List DriverFailure} {session : SessionId} :
    fs.length < s.retry.maxAttempts →
    CycleRan timed (s.retried fs ++ [s.attempt fs (.answered (.ok session))])
      ((s.midCycle fs (fs.length + 1)).established session (s.targetAfter fs)) (some (.ok ()))
  /-- The last attempt fails. -/
  | exhausted {fs : List DriverFailure} {f : DriverFailure} :
    fs.length + 1 = s.retry.maxAttempts →
    CycleRan timed (s.retried fs ++ [s.attempt fs (.answered (.error f))])
      ((s.midCycle fs (fs.length + 1)).broken (.connection ⟨s.progressAfter fs (fs.length + 1), f⟩))
      (some (.error (.connection ⟨s.progressAfter fs (fs.length + 1), f⟩)))
  /-- The caller gives up. -/
  | givenUp {ms : List Moment} {c : Connection} {q : Request} :
    s.Waits ms c q → CycleRan timed (ms ++ [.asked c q .givenUp]) c.abandoned none
  /-- The deadline passes. -/
  | late {ms : List Moment} {c : Connection} {q : Request} (elapsed : Duration) :
    timed = true → s.Waits ms c q →
    CycleRan timed (ms ++ [.asked c q .late]) (c.abandoned.expired elapsed)
      (some (.error (.timeout elapsed c.progress)))

/-- A cycle without a result was given up where it waited. -/
theorem CycleRan.waits_of_none {s : Settings} {timed : Bool} {ms : List Moment} {c : Connection}
    (h : s.CycleRan timed ms c none) :
    ∃ ms' c' q, ms = ms' ++ [.asked c' q .givenUp] ∧ c = c'.abandoned ∧ s.Waits ms' c' q := by
  generalize hr : (none : Option (Except Fault Unit)) = r at h
  cases h with
  | givenUp hw => exact ⟨_, _, _, rfl, rfl, hw⟩
  | opened | exhausted | late => cases hr

end Settings

namespace Connection
open Settings

theorem progress_abandoned (c : Connection) : c.abandoned.progress = c.progress := by
  unfold abandoned; split <;> rfl

theorem cycle_midCycle_succ (s : Settings) (fs : List DriverFailure) (retries : Nat) :
    cycle (retries + 1) (s.targetAfter fs) (s.midCycle fs fs.length) =
      .await (s.midCycle fs (fs.length + 1)) (.openSession (s.targetAfter fs)) fun
        | .ok session => .done ((s.midCycle fs (fs.length + 1)).established session (s.targetAfter fs)) (.ok ())
        | .error f =>
          let span := s.retry.delayBefore (fs.length + 1)
          let rest := cycle retries (s.targetAfter (fs ++ [f])) (s.midCycle (fs ++ [f]) (fs.length + 1))
          if span.isZero then rest
          else .await (s.midCycle (fs ++ [f]) (fs.length + 1)) (.wait span) fun _ => rest := by
  rw [cycle, attempted_midCycle]
  congr 1
  funext a
  cases a with
  | ok session => rfl
  | error f => simp only [fallBack_midCycle]; rfl

/-- The rest of a cycle goes as a cycle may go. -/
theorem cycle_ensures (s : Settings) (timed : Bool) (retries : Nat) (fs : List DriverFailure)
    (h : fs.length + retries + 1 = s.retry.maxAttempts) :
    (cycle retries (s.targetAfter fs) (s.midCycle fs fs.length)).Ensures (s.CycleRan timed)
      (s.retried fs) := by
  induction retries generalizing fs with
  | zero =>
    rw [cycle, attempted_midCycle]
    refine ⟨.givenUp (.attempt (by omega)), ?_⟩
    intro a
    cases a with
    | ok session => exact .opened (by omega)
    | error f => exact .exhausted (by omega)
  | succ retries ih =>
    rw [cycle_midCycle_succ]
    refine ⟨.givenUp (.attempt (by omega)), ?_⟩
    intro a
    cases a with
    | ok session => exact .opened (by omega)
    | error f =>
      have hnext := ih (fs ++ [f]) (by simp; omega)
      rw [retried_snoc, pause, List.length_append, List.length_singleton] at hnext
      cases hz : (s.retry.delayBefore (fs.length + 1)).isZero with
      | true =>
        rw [if_pos hz] at hnext
        simp only [hz, if_true]
        exact hnext
      | false =>
        rw [if_neg (by simp [hz]), ← List.singleton_append, ← List.append_assoc] at hnext
        simp only [hz, Bool.false_eq_true, if_false]
        exact ⟨.givenUp (.pause (by omega) hz), fun _ => hnext⟩

theorem connectBy_of_open {c : Connection} (deadline : Option Duration) (h : c.isOpen = true) :
    c.connectBy deadline = .done c (.ok ()) := by
  cases deadline <;> simp [connectBy, connectWithin, connect, h, within]

/-- **All cycles.** Unless a session is open, connecting goes as a cycle may go. -/
theorem connectBy_ensures {c : Connection} (deadline : Option Duration) (hopen : c.isOpen = false)
    (hsession : c.session = none) :
    (c.connectBy deadline).Ensures (c.settings.CycleRan deadline.isSome) [] := by
  have hpos := c.settings.retry.maxAttempts_pos
  have hcycle : ∀ timed, c.connect.Ensures (c.settings.CycleRan timed) [] := by
    intro timed
    have h := cycle_ensures c.settings timed (c.settings.retry.maxAttempts - 1) [] (by simp; omega)
    rw [targetAfter_nil] at h
    simpa [connect, hopen, hsession, releasing, begun_eq_midCycle] using h
  cases deadline with
  | none => exact hcycle false
  | some d =>
    -- the deadline passes only where the caller could have given up
    refine (hcycle true).within ?_
    intro ms c' q t h
    obtain ⟨ms', c'', q', hms, -, hw⟩ := h.waits_of_none
    obtain ⟨rfl, hlast⟩ := List.append_inj' hms rfl
    simp only [List.cons.injEq, Moment.asked.injEq] at hlast
    obtain ⟨⟨rfl, rfl, -⟩, -⟩ := hlast
    have hlate := CycleRan.late t rfl hw
    rwa [← progress_abandoned] at hlate

/-- A cycle first lets go the session that is left, if there is one, and then goes as from a connection
without it. -/
theorem connectBy_eq_releasing {c : Connection} (deadline : Option Duration) (hopen : c.isOpen = false) :
    c.connectBy deadline = .releasing c.session (connectBy deadline { c with session := none }) := by
  have hopen' : isOpen { c with session := none } = false := by simp [isOpen]
  have hconnect : c.connect = .releasing c.session (connect { c with session := none }) := by
    simp [connect, hopen, hopen', begun, releasing]
  cases deadline with
  | none => exact hconnect
  | some d =>
    simp only [connectBy, connectWithin, hconnect]
    cases c.session <;> rfl

/-- Unless a session is open, connecting lets go what is left and then goes as a cycle may go. -/
theorem connectBy_ensures_of_left {c : Connection} (deadline : Option Duration) (hopen : c.isOpen = false) :
    (c.connectBy deadline).Ensures (fun ms c' r => ∃ later, ms = c.session.toList.map .released ++ later ∧
      c.settings.CycleRan deadline.isSome later c' r) [] := by
  have h := connectBy_ensures (c := { c with session := none }) deadline (by simp [isOpen]) rfl
  rw [connectBy_eq_releasing deadline hopen, ensures_releasing]
  simpa using h.frame (c.session.toList.map .released)

end Connection
end OracleIntake
