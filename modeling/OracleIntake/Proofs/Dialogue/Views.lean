import OracleIntake.Proofs.Connection.Hand

/-!
# What the log of a run shows

The views of a log, read off the moments of the run: how many sessions were asked for, which were handed out
and what was sent to them.
-/
namespace OracleIntake
open Moments

namespace Log

/-- The sessions that were handed out, in order. -/
def sessions (log : List Event) : List SessionId :=
  log.filterMap fun
    | .opened s => some s
    | _ => none

section
variable (es fs : List Event)

@[simp] theorem targets_append : targets (es ++ fs) = targets es ++ targets fs := List.filterMap_append

@[simp] theorem calls_append : calls (es ++ fs) = calls es ++ calls fs := List.filterMap_append

@[simp] theorem sessions_append : sessions (es ++ fs) = sessions es ++ sessions fs := List.filterMap_append

end

section
variable {q : Request} {s : SessionId} (h : q.session? = some s) (es : List Event)
include h

theorem targets_asked : targets (.asked q :: es) = targets es := by
  cases q with
  | openSession => cases h
  | _ => rfl

theorem calls_asked : calls (.asked q :: es) = q :: calls es := by
  cases q with
  | openSession | wait => cases h
  | _ => rfl

end
end Log

theorem Request.handedOut_of_session {q : Request} {s : SessionId} (h : q.session? = some s) (a : q.Answer) :
    q.handedOut a = [] := by
  cases q with
  | openSession => cases h
  | _ => rfl

namespace Moment
variable (m : Moment)

theorem length_targets : (Log.targets m.events).length = attempts [m] := by
  cases m with
  | released s => rfl
  | asked c q e =>
    cases e with
    | answered a =>
      cases q with
      | openSession t => cases a <;> rfl
      | _ => rfl
    | late | givenUp => cases q <;> rfl

theorem sessions_eq : Log.sessions m.events = (outcomes [m]).filterMap Except.toOption := by
  cases m with
  | released s => rfl
  | asked c q e =>
    cases e with
    | answered a =>
      cases q with
      | openSession t => cases a <;> rfl
      | _ => rfl
    | late | givenUp => cases q <;> rfl

theorem calls_eq_nil {m : Moment} (h : m.asks? = none) : Log.calls m.events = [] := by
  cases m with
  | released s => rfl
  | asked c q e =>
    cases q with
    | openSession t =>
      cases e with
      | answered a => cases a <;> rfl
      | late | givenUp => rfl
    | wait => cases e <;> rfl
    | execute | query | serverVersion | currentUser | close => cases h

end Moment

namespace Moments
variable (ms : List Moment)

theorem events_cons (m : Moment) : events (m :: ms) = m.events ++ events ms := rfl

theorem length_targets_events : (Log.targets (events ms)).length = attempts ms := by
  induction ms with
  | nil => rfl
  | cons m ms ih =>
    rw [events_cons, Log.targets_append, List.length_append, m.length_targets, ih, ← attempts_append]
    rfl

theorem sessions_events : Log.sessions (events ms) = (outcomes ms).filterMap Except.toOption := by
  induction ms with
  | nil => rfl
  | cons m ms ih =>
    rw [events_cons, Log.sessions_append, m.sessions_eq, ih, ← List.filterMap_append, ← outcomes_append]
    rfl

theorem calls_events {ms : List Moment} (h : ∀ m ∈ ms, m.asks? = none) : Log.calls (events ms) = [] := by
  induction ms with
  | nil => rfl
  | cons m ms ih =>
    rw [events_cons, Log.calls_append, Moment.calls_eq_nil (h m List.mem_cons_self),
      ih fun m' hm' => h m' (List.mem_cons_of_mem m hm')]
    rfl

theorem length_outcomes_le : (outcomes ms).length ≤ attempts ms := by
  induction ms with
  | nil => exact Nat.le_refl 0
  | cons m ms ih =>
    have hm : (outcomes [m]).length ≤ attempts [m] := by
      cases m with
      | released s => exact Nat.le_refl 0
      | asked c q e =>
        cases q with
        | openSession t => exact List.length_filterMap_le ..
        | _ => exact Nat.le_refl 0
    have happend := Nat.add_le_add hm ih
    rw [← List.length_append, ← outcomes_append, ← attempts_append] at happend
    exact happend

theorem length_sessions_le : (Log.sessions (events ms)).length ≤ (Log.targets (events ms)).length := by
  rw [sessions_events, length_targets_events]
  exact Nat.le_trans (List.length_filterMap_le ..) (length_outcomes_le ms)

end Moments
end OracleIntake
