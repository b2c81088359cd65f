import Mathlib.Data.List.Induction
import OracleIntake.Proofs.Connection.CycleRun
import OracleIntake.Proofs.Connection.Life
import OracleIntake.Rehearsal.Log
import OracleIntake.Rehearsal.Standin

/-!
# Connect cycles in closed form

What a connect cycle does that runs to its end, as a function of the settings and the outcomes of its
attempts: how many attempts there are, where each goes, how long the cycle waits, and what is left. Nothing
else plays a part, least of all what earlier calls noted on the connection.

* `connect_closedForm`: the closed form.
-/
namespace OracleIntake
open Dialogue Moments

/-- The outcomes of the attempts of a cycle, the first one being number zero. -/
abbrev Outcomes := Nat → Except DriverFailure SessionId

/-- The failures among the first `n` outcomes. -/
def Outcomes.failures (o : Outcomes) (n : Nat) : List DriverFailure :=
  (List.range n).filterMap fun i => failure? (o i)

namespace Settings
variable (s : Settings) (o : Outcomes)

/-- What the world sees of the wait before retry `n`. -/
def waitLog (n : Nat) : List Event :=
  if (s.retry.delayBefore n).isZero then [] else [.asked (.wait (s.retry.delayBefore n))]

/-- What the world sees of attempt `i` out of `n`, with the wait before the next one. -/
def attemptLog (n i : Nat) : List Event :=
  .asked (.openSession (s.targetAfter (o.failures i))) ::
    match o i with
    | .ok session => [.opened session]
    | .error _ => if i + 1 < n then s.waitLog (i + 1) else []

/-- The connection and the result of a cycle whose last attempt, after the failures `fs`, had this outcome. -/
def ended (fs : List DriverFailure) (outcome : Except DriverFailure SessionId) :
    Connection × Except Fault Unit :=
  let p := s.progressAfter fs (fs.length + 1)
  match outcome with
  | .ok session =>
    ({ settings := s, lifecycle := .opened, session := some session, target := some (s.targetAfter fs)
       progress := p }, .ok ())
  | .error f =>
    ({ settings := s, lifecycle := .failed, progress := p, lastFault := some (.connection ⟨p, f⟩) },
      .error (.connection ⟨p, f⟩))

/-- A cycle with `n` attempts went as its outcomes say; `left` is a session that the connection still had. -/
structure WentBy {σ : Type} (left : Option SessionId) (ms : List Moment) (ran : Run σ (Except Fault Unit))
    (n : Nat) : Prop where
  pos : 0 < n
  le : n ≤ min (s.retry.retries + 1) max32
  /-- The cycle ends with the first success. -/
  success : ∀ k, k < min (s.retry.retries + 1) max32 → (∀ j < k, ∃ f, o j = .error f) →
    (∃ session, o k = .ok session) → n = k + 1
  /-- Without a success it ends with the last attempt of the policy. -/
  noSuccess : (∀ k < min (s.retry.retries + 1) max32, ∃ f, o k = .error f) →
    n = min (s.retry.retries + 1) max32
  targets : Log.targets ran.log = (List.range n).map fun i => s.targetAfter (o.failures i)
  log : ran.log = left.toList.map .released ++ (List.range n).flatMap (s.attemptLog o n)
  /-- The count of attempts stays within 32 bits. -/
  count : ∀ c q e, .asked c q e ∈ ms → c.progress.attempts ≤ max32
  result : ran.result = some (s.ended (o.failures (n - 1)) (o (n - 1))).2
  connection : ran.connection = (s.ended (o.failures (n - 1)) (o (n - 1))).1

/-! ## The moments of a cycle -/

variable (fs : List DriverFailure)

theorem events_pause : events (s.pause fs) = s.waitLog fs.length := by
  unfold pause waitLog; split <;> rfl

theorem events_retried :
    events (s.retried fs) = (List.range fs.length).flatMap fun i =>
      .asked (.openSession (s.targetAfter (fs.take i))) :: s.waitLog (i + 1) := by
  induction fs using List.reverseRecOn with
  | nil => rfl
  | append_singleton fs f ih =>
    rw [retried_snoc, events_append, ih, ← List.singleton_append, events_append, events_pause,
      List.length_append, List.length_singleton, List.range_succ, List.flatMap_append,
      List.flatMap_singleton, List.take_left]
    congr 1
    apply List.flatMap_congr
    intro i hi
    rw [List.take_append_of_le_length (by have := List.mem_range.1 hi; omega)]

theorem attempts_le_of_mem_retried {c : Connection} {q : Request} {e : Waited q.Answer}
    (h : .asked c q e ∈ s.retried fs) : c.progress.attempts ≤ fs.length := by
  obtain ⟨gs, hle, ⟨hlt, f, h⟩ | h⟩ := s.mem_retried fs h
  · cases h
    exact hlt
  · cases s.eq_of_mem_pause gs h
    exact hle

/-- A cycle with a result, under no deadline, ends with an attempt that succeeds or is the last. -/
theorem CycleRan.finished {s : Settings} {ms : List Moment} {c : Connection} {r : Except Fault Unit}
    (h : s.CycleRan false ms c (some r)) :
    ∃ fs x, fs.length < s.retry.maxAttempts ∧
      (∀ f, x = .error f → fs.length + 1 = s.retry.maxAttempts) ∧
      ms = s.retried fs ++ [s.attempt fs (.answered x)] ∧ (c, r) = s.ended fs x := by
  generalize hr : some r = r' at h
  cases h with
  | opened hlt =>
    cases hr
    exact ⟨_, .ok _, hlt, nofun, rfl, rfl⟩
  | exhausted heq =>
    cases hr
    exact ⟨_, .error _, by omega, fun _ _ => heq, rfl, rfl⟩
  | givenUp => cases hr
  | late _ h => cases h

end Settings

namespace Outcomes
variable {o : Outcomes} {fs : List DriverFailure}

theorem failures_eq_take (h : ∀ i (hi : i < fs.length), o i = .error fs[i]) {n : Nat}
    (hn : n ≤ fs.length) : o.failures n = fs.take n := by
  induction n with
  | zero => rfl
  | succ n ih =>
    have hlt : n < fs.length := by omega
    have hsnoc : o.failures (n + 1) = o.failures n ++ [fs[n]] := by
      simp [failures, List.range_succ, h n hlt, failure?]
    rw [hsnoc, ih (by omega), List.take_add_one, List.getElem?_eq_getElem hlt]
    rfl

/-- The answer of a driver that does what it is asked for. -/
def willing (session : SessionId) : (q : Request) → q.Answer
  | .openSession _ => .ok session
  | .execute .. => .ok 0
  | .query .. => .ok []
  | .serverVersion _ | .currentUser _ => .ok ""
  | .close _ => .ok ()
  | .wait _ => ()

/-- A world in which the attempts end one after the other with these outcomes, and nothing else fails. -/
def world (o : Outcomes) : World Nat where
  answer
    | .openSession _, _, n => (.answered (o n), n + 1)
    | q, _, n => (.answered (willing 0 q), n)
  elapsed _ := .zero

theorem attends_world (o : Outcomes) : o.world.Attends := by
  intro q deadline n
  cases q <;> exact ⟨_, _, rfl⟩

/-- The outcomes of a dialogue in the world of some outcomes are among these. -/
theorem eq_of_outcomes_world {α : Type} (o : Outcomes) (p : Dialogue α) (n i : Nat)
    {x : Except DriverFailure SessionId} (h : (outcomes (p.moments o.world n))[i]? = some x) :
    o (n + i) = x := by
  induction p generalizing n i with
  | done c a => cases h
  | release s p ih => exact ih n i h
  | await c q resume ih =>
    cases q with
    | openSession target =>
      cases i with
      | zero => exact Option.some.inj h
      | succ i => rw [← Nat.add_assoc, Nat.add_right_comm]; exact ih (o n) (n + 1) i h
    | execute | query | serverVersion | currentUser | close | wait => exact ih _ n i h
  | awaitUntil c q deadline expire resume _ ih =>
    cases q with
    | openSession target =>
      cases i with
      | zero => exact Option.some.inj h
      | succ i => rw [← Nat.add_assoc, Nat.add_right_comm]; exact ih (o n) (n + 1) i h
    | execute | query | serverVersion | currentUser | close | wait => exact ih _ n i h

end Outcomes

namespace Settings

theorem targets_attemptLog (s : Settings) (o : Outcomes) (n i : Nat) :
    Log.targets (s.attemptLog o n i) = [s.targetAfter (o.failures i)] := by
  unfold attemptLog waitLog
  cases o i with
  | ok session => rfl
  | error f => dsimp only; split <;> [split; skip] <;> rfl

theorem events_finished (s : Settings) {o : Outcomes} {fs : List DriverFailure}
    {x : Except DriverFailure SessionId} (hfs : ∀ i (hi : i < fs.length), o i = .error fs[i])
    (hx : o fs.length = x) :
    events (s.retried fs ++ [s.attempt fs (.answered x)]) =
      (List.range (fs.length + 1)).flatMap (s.attemptLog o (fs.length + 1)) := by
  rw [events_append, events_retried, List.range_succ, List.flatMap_append, List.flatMap_singleton]
  congr 1
  · apply List.flatMap_congr
    intro i hi
    have hlt := List.mem_range.1 hi
    simp only [attemptLog, hfs i hlt, Outcomes.failures_eq_take hfs (Nat.le_of_lt hlt)]
    rw [if_pos (by omega)]
  · simp only [attemptLog, hx, Outcomes.failures_eq_take hfs (Nat.le_refl _), List.take_length]
    cases x with
    | ok session => rfl
    | error f => simp [events, attempt, Moment.events, Request.handedOut]

theorem wentBy_finished {s : Settings} {o : Outcomes} {left : Option SessionId} {fs : List DriverFailure}
    {x : Except DriverFailure SessionId} {ms : List Moment} {σ : Type} {ran : Run σ (Except Fault Unit)}
    {r : Except Fault Unit} (hlt : fs.length < s.retry.maxAttempts)
    (hlast : ∀ f, x = .error f → fs.length + 1 = s.retry.maxAttempts)
    (hms : ms = left.toList.map .released ++ (s.retried fs ++ [s.attempt fs (.answered x)]))
    (hend : (ran.connection, r) = s.ended fs x) (hr : ran.result = some r) (hlog : ran.log = events ms)
    (ho : ∀ i y, (outcomes ms)[i]? = some y → o i = y) : s.WentBy o left ms ran (fs.length + 1) := by
  have hout : outcomes ms = fs.map .error ++ [x] := by
    rw [hms, outcomes_append, outcomes_finished]
    cases left <;> rfl
  rw [hout] at ho
  have hfs : ∀ i (hi : i < fs.length), o i = .error fs[i] := by
    intro i hi
    apply ho
    rw [List.getElem?_append_left (by simpa using hi), List.getElem?_map, List.getElem?_eq_getElem hi]
    rfl
  have hx : o fs.length = x := ho _ x (by simp)
  have hfailures : o.failures fs.length = fs := by
    rw [Outcomes.failures_eq_take hfs (Nat.le_refl _), List.take_length]
  have hevents : ran.log =
      left.toList.map .released ++ (List.range (fs.length + 1)).flatMap (s.attemptLog o (fs.length + 1)) := by
    rw [hlog, hms, events_append, events_finished s hfs hx]
    cases left <;> rfl
  have hmax := s.retry.maxAttempts_le
  change fs.length < min (s.retry.retries + 1) max32 at hlt
  change ∀ f, x = .error f → fs.length + 1 = min (s.retry.retries + 1) max32 at hlast
  refine ⟨by omega, by omega, ?_, ?_, ?_, hevents, ?_, ?_, ?_⟩
  · -- an earlier attempt failed, and a later one would follow a failure of the last
    rintro k hk hbefore ⟨session, hsession⟩
    rcases Nat.lt_trichotomy k fs.length with h | h | h
    · rw [hfs k h] at hsession
      cases hsession
    · omega
    · obtain ⟨f, hf⟩ := hbefore _ h
      have := hlast f (hx.symm.trans hf)
      omega
  · intro hall
    obtain ⟨f, hf⟩ := hall _ hlt
    exact hlast f (hx.symm.trans hf)
  · have hleft : Log.targets (left.toList.map .released) = [] := by cases left <;> rfl
    rw [hevents, Log.targets, List.filterMap_append, ← Log.targets, hleft, List.nil_append,
      List.filterMap_flatMap, List.map_eq_flatMap]
    exact List.flatMap_congr fun i _ => s.targets_attemptLog o _ i
  · intro c q e hmem
    rw [hms] at hmem
    rcases List.mem_append.1 hmem with h | h
    · simp at h
    · rcases List.mem_append.1 h with h | h
      · have := s.attempts_le_of_mem_retried fs h
        omega
      · cases List.mem_singleton.1 h
        exact Nat.le_trans hlt hmax
  · rw [hr, Nat.add_sub_cancel, hfailures, hx, ← hend]
  · rw [Nat.add_sub_cancel, hfailures, hx, ← hend]

end Settings

/-- **Closed form.** A connect cycle goes by the outcomes of its attempts, whatever the life before it was and
whatever it left on the connection. It comes to its end in every world that answers. -/
theorem connect_closedForm {c : Connection} (hopen : c.isOpen = false) {σ : Type} (w : World σ) (st : σ)
    (o : Outcomes) (ho : ∀ i x, (outcomes (c.connect.moments w st))[i]? = some x → o i = x) :
    (w.Attends → (c.connect.run w st).result.isSome) ∧
      ((c.connect.run w st).result.isSome →
        ∃ n, c.settings.WentBy o c.session (c.connect.moments w st) (c.connect.run w st) n) := by
  refine ⟨fun hw => isSome_run_of_attends hw _ st, fun hres => ?_⟩
  obtain ⟨later, hms, hran⟩ := ensures_run (Connection.connectBy_ensures_of_left none hopen) w st
  obtain ⟨r, hr⟩ := Option.isSome_iff_exists.1 hres
  have hran' : c.settings.CycleRan false later (c.connect.run w st).connection (some r) := by
    rw [← hr]; exact hran
  obtain ⟨fs, x, hlt, hlast, rfl, hend⟩ := hran'.finished
  exact ⟨_, Settings.wentBy_finished hlt hlast hms hend hr (log_eq_events w _ st) ho⟩

/-- A certificate that is not accepted, then a port at which nothing listens, then a session. -/
def Outcomes.rough : Outcomes
  | 0 => .error Standin.tlsFailure
  | 1 => .error Standin.refused
  | n => .ok n

theorem connect_closedForm_rough :
    let c : Connection := { settings := .guarded }
    let w := Outcomes.rough.world
    (c.connect.run w 0).result.isSome ∧
      ∃ n, Settings.guarded.WentBy .rough none (c.connect.moments w 0) (c.connect.run w 0) n := by
  intro c w
  obtain ⟨hfinished, hwent⟩ := connect_closedForm (c := c) rfl w 0 .rough
    fun i x h => by simpa using Outcomes.rough.eq_of_outcomes_world c.connect 0 i h
  have hsome := hfinished (Outcomes.attends_world _)
  exact ⟨hsome, hwent hsome⟩

example :
    (Log.targets ((Connection.connect { settings := .guarded }).run Outcomes.rough.world 0).log).map
      (fun t => (t.transport, t.port)) = [(.secure, 2484), (.plain, 2484), (.plain, 1521)] := by decide +kernel

end OracleIntake
