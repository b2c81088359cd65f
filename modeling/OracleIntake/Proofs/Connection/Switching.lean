import Mathlib.Data.List.Induction
import OracleIntake.Proofs.Connection.ClosedForm
import OracleIntake.Proofs.Failure.Telling

/-!
# When a cycle changes its endpoint

Giving up the secure transport is the costliest thing that a connect cycle can do, so it is told from the outside
when it does: at the first failure whose message tells one of the transport, by the first code in it if that is
listed, and only if it is not by its words. The port goes by the same rule. Both are read off the moments of the
cycle alone, each of which follows from those before it.

* `CycleRan.told`: every moment of a cycle follows from those before it, whatever the world answers.
* `Told.switches_iff_first`: what a cycle does at the first failure of a kind, it does once.
* `connectBy_switchesByCode`: where a cycle leaves the secure transport, and where its port.
-/
namespace OracleIntake
open Dialogue Moments

namespace Settings
variable (s : Settings)

/-- What may come next in a cycle, told by the moments before. -/
inductive Follows (past : List Moment) : Moment → Prop where
  /-- A session that is left is let go before the first attempt. -/
  | released {session : SessionId} : attempts past = 0 → Follows past (.released session)
  | attempt {e : Waited (Except DriverFailure SessionId)} : attempts past < s.retry.maxAttempts →
    Follows past (.asked (s.midCycle (failures past) (attempts past + 1))
      (.openSession (s.targetAfter (failures past))) e)
  | pause {e : Waited Unit} : attempts past < s.retry.maxAttempts →
    Follows past (.asked (s.midCycle (failures past) (attempts past))
      (.wait (s.retry.delayBefore (attempts past))) e)

/-- Each moment follows from those before it. -/
def Told (ms : List Moment) : Prop := ∀ past m, past ++ [m] <+: ms → s.Follows past m

variable {s}

theorem Follows.attempt_of {past : List Moment} {fs : List DriverFailure} {n : Nat}
    {e : Waited (Except DriverFailure SessionId)} (hfailures : failures past = fs) (hattempts : attempts past = n)
    (hlt : n < s.retry.maxAttempts) :
    s.Follows past (.asked (s.midCycle fs (n + 1)) (.openSession (s.targetAfter fs)) e) := by
  subst hfailures hattempts
  exact .attempt hlt

theorem Follows.pause_of {past : List Moment} {fs : List DriverFailure} {n : Nat} {e : Waited Unit}
    (hfailures : failures past = fs) (hattempts : attempts past = n) (hlt : n < s.retry.maxAttempts) :
    s.Follows past (.asked (s.midCycle fs n) (.wait (s.retry.delayBefore n)) e) := by
  subst hfailures hattempts
  exact .pause hlt

theorem told_nil : s.Told [] := by
  intro past m h
  simp at h

theorem Told.snoc {ms : List Moment} {m : Moment} (h : s.Told ms) (hm : s.Follows ms m) :
    s.Told (ms ++ [m]) := by
  intro past m' hpast
  rcases List.prefix_concat_iff.1 hpast with heq | hpast
  · obtain ⟨rfl, hlast⟩ := List.append_inj' heq rfl
    cases hlast
    exact hm
  · exact h past m' hpast

/-- Moments before the first attempt of a cycle. -/
structure Ahead (s : Settings) (base : List Moment) : Prop where
  told : s.Told base
  failures : failures base = []
  attempts : attempts base = 0

theorem Ahead.failures_append {base : List Moment} (h : s.Ahead base) (ms : List Moment) :
    Moments.failures (base ++ ms) = Moments.failures ms := by
  rw [Moments.failures_append, h.failures, List.nil_append]

theorem Ahead.attempts_append {base : List Moment} (h : s.Ahead base) (ms : List Moment) :
    Moments.attempts (base ++ ms) = Moments.attempts ms := by
  rw [Moments.attempts_append, h.attempts, Nat.zero_add]

theorem ahead_released (left : Option SessionId) : s.Ahead (left.toList.map .released) := by
  cases left with
  | none => exact ⟨told_nil, rfl, rfl⟩
  | some session => exact ⟨told_nil.snoc (.released rfl), rfl, rfl⟩

section
variable {base ms : List Moment} {c : Connection} {q : Request} (hbase : s.Ahead base)
include hbase

/-- Where a cycle waits, it waits for what follows from the moments before. -/
theorem Waits.follows (h : s.Waits ms c q) (e : Waited q.Answer) :
    s.Follows (base ++ ms) (.asked c q e) := by
  cases h with
  | @attempt fs hlt =>
    have hfailures : Moments.failures (base ++ s.retried fs) = fs := by
      rw [hbase.failures_append, failures_retried]
    have hattempts : Moments.attempts (base ++ s.retried fs) = fs.length := by
      rw [hbase.attempts_append, attempts_retried]
    exact .attempt_of hfailures hattempts hlt
  | @pause fs f hlt _ =>
    have hfailures : Moments.failures (base ++ (s.retried fs ++ [s.attempt fs (.answered (.error f))])) =
        fs ++ [f] := by
      rw [hbase.failures_append, Moments.failures_append, failures_retried]
      rfl
    have hattempts : Moments.attempts (base ++ (s.retried fs ++ [s.attempt fs (.answered (.error f))])) =
        fs.length + 1 := by
      rw [hbase.attempts_append, Moments.attempts_append, attempts_retried]
      rfl
    exact .pause_of hfailures hattempts hlt

theorem told_retried {fs : List DriverFailure} (hlt : fs.length < s.retry.maxAttempts) :
    s.Told (base ++ s.retried fs) := by
  induction fs using List.reverseRecOn with
  | nil => simpa using hbase.told
  | append_singleton fs f ih =>
    rw [List.length_append, List.length_singleton] at hlt
    have hattempt := (ih (by omega)).snoc ((Waits.attempt (by omega)).follows hbase (.answered (.error f)))
    rw [List.append_assoc] at hattempt
    have hlength : (fs ++ [f]).length = fs.length + 1 := by simp
    rw [retried_snoc, pause, hlength]
    cases hzero : (s.retry.delayBefore (fs.length + 1)).isZero with
    | true => exact hattempt
    | false =>
      have hpause := hattempt.snoc ((Waits.pause hlt hzero).follows hbase (.answered ()))
      rw [List.append_assoc, List.append_assoc] at hpause
      exact hpause

theorem Waits.told (h : s.Waits ms c q) : s.Told (base ++ ms) := by
  have h' := h
  cases h with
  | attempt hlt => exact told_retried hbase hlt
  | pause hlt _ =>
    rw [← List.append_assoc]
    exact (told_retried hbase (by omega)).snoc ((Waits.attempt (by omega)).follows hbase _)

theorem CycleRan.told {timed : Bool} {r : Option (Except Fault Unit)} (h : s.CycleRan timed ms c r) :
    s.Told (base ++ ms) := by
  cases h with
  | opened hlt =>
    rw [← List.append_assoc]
    exact (told_retried hbase hlt).snoc ((Waits.attempt hlt).follows hbase _)
  | exhausted heq =>
    rw [← List.append_assoc]
    exact (told_retried hbase (by omega)).snoc ((Waits.attempt (by omega)).follows hbase _)
  | givenUp hw | late _ _ hw =>
    rw [← List.append_assoc]
    exact (hw.told hbase).snoc (hw.follows hbase _)

end

end Settings

/-! ## Places where a cycle goes on -/

/-- The endpoint to which the notes of a cycle lead. -/
def Connection.endpoint (c : Connection) : Target := c.settings.target.fallenBack c.progress

/-- An attempt at `t` that failed with `f`; the connection stood as `c`. -/
def Moment.failed (c : Connection) (t : Target) (f : DriverFailure) : Moment :=
  .asked c (.openSession t) (.answered (.error f))

namespace Moments
variable {ms before : List Moment} {c c' next next' : Connection} {t t' : Target}
  {f f' g : DriverFailure}

/-- After `before`, an attempt at `t` fails with `f` while the connection stands as `c`, and the cycle goes on with
the connection standing as `next`. -/
def GoesOn (ms before : List Moment) (c : Connection) (t : Target) (f : DriverFailure) (next : Connection) : Prop :=
  ∃ q e after, ms = before ++ .failed c t f :: .asked next q e :: after

/-- There the cycle goes on, its endpoint changed in this way. -/
def Switches (switch : Target → Target → Prop) (ms before : List Moment) : Prop :=
  ∃ c t f next, GoesOn ms before c t f next ∧ switch t next.endpoint

/-- There the cycle leaves the secure transport, and verification with it. -/
def SwitchesPlain : List Moment → List Moment → Prop :=
  Switches fun t t' => t.transport = .secure ∧ t'.transport = .plain ∧ t'.verify = false

/-- There the cycle goes over to this port. -/
def SwitchesTo (port : UInt16) : List Moment → List Moment → Prop :=
  Switches fun t t' => t.port ≠ port ∧ t'.port = port

/-- The cycle has come by no such place before. -/
def NoneEarlier (Places : List Moment → Prop) (before : List Moment) : Prop :=
  ∀ earlier : List Moment, earlier.length < before.length → ¬ Places earlier

theorem mem_failures : f ∈ failures ms ↔ ∃ c t, .failed c t f ∈ ms := by
  simp only [failures, outcomes, List.mem_filterMap]
  constructor
  · rintro ⟨o, ⟨m, hm, ho⟩, hf⟩
    cases o with
    | ok session => cases hf
    | error f' =>
      cases hf
      unfold Moment.outcome? at ho
      split at ho
      · cases ho
        exact ⟨_, _, hm⟩
      · cases ho
  · rintro ⟨c, t, hm⟩
    exact ⟨.error f, ⟨_, hm, rfl⟩, rfl⟩

theorem GoesOn.prefix_failed (h : GoesOn ms before c t f next) : before ++ [.failed c t f] <+: ms := by
  obtain ⟨q, e, after, rfl⟩ := h
  exact ⟨_, List.append_assoc ..⟩

theorem GoesOn.unique (h : GoesOn ms before c t f next) (h' : GoesOn ms before c' t' f' next') :
    t = t' ∧ f = f' ∧ next = next' := by
  obtain ⟨q, e, after, rfl⟩ := h
  obtain ⟨q', e', after', heq⟩ := h'
  cases List.append_cancel_left heq
  exact ⟨rfl, rfl, rfl⟩

/-- What failed at an earlier place is among what failed up to a later moment. -/
theorem GoesOn.mem_failures (h : GoesOn ms before c t f next) {later : List Moment} (hlater : later <+: ms)
    (hlt : before.length < later.length) : f ∈ failures later := by
  obtain ⟨rest, rfl⟩ := List.prefix_of_prefix_length_le h.prefix_failed hlater
    (by simpa using Nat.succ_le_of_lt hlt)
  exact Moments.mem_failures.2 ⟨c, t, by simp⟩

end Moments

namespace Settings
variable {s : Settings} {ms before : List Moment} {c next : Connection} {t : Target}
  {f g : DriverFailure}

/-- An attempt that the cycle goes on after is not its last, and the failures up to there tell the endpoints. -/
theorem Told.goesOn (h : s.Told ms) (hg : GoesOn ms before c t f next) :
    c.progress.attempts < s.retry.maxAttempts ∧ t = s.targetAfter (failures before) ∧
      next.endpoint = s.targetAfter (failures before ++ [f]) := by
  have hattempt := h _ _ hg.prefix_failed
  obtain ⟨q, e, after, rfl⟩ := hg
  have hnext := h (before ++ [.failed c t f]) (.asked next q e) ⟨after, by simp⟩
  have hfailures : failures (before ++ [.failed c t f]) = failures before ++ [f] := failures_append ..
  have hattempts : attempts (before ++ [.failed c t f]) = attempts before + 1 := attempts_append ..
  cases hattempt with
  | attempt hlt =>
    cases hnext with
    | attempt hlt' =>
      rw [hattempts] at hlt'
      exact ⟨hlt', rfl, by rw [hfailures]; rfl⟩
    | pause hlt' =>
      rw [hattempts] at hlt'
      exact ⟨hlt', rfl, by rw [hfailures]; rfl⟩

/-- After an attempt nothing is let go any more: where something follows on a failed attempt, the cycle goes on. -/
theorem Told.goesOn_of_cons {m : Moment} {rest : List Moment}
    (h : s.Told (before ++ [.failed c t f] ++ m :: rest)) :
    ∃ next, GoesOn (before ++ [.failed c t f] ++ m :: rest) before c t f next := by
  have hattempts : attempts (before ++ [.failed c t f]) = attempts before + 1 := attempts_append ..
  cases h (before ++ [.failed c t f]) m ⟨rest, by simp⟩ with
  | released hzero =>
    rw [hattempts] at hzero
    cases hzero
  | attempt | pause => exact ⟨_, _, _, rest, List.append_assoc ..⟩

/-- Every failure before a place is that of an earlier place. -/
theorem Told.exists_goesOn (h : s.Told ms) (hg : GoesOn ms before c t f next) (hmem : g ∈ failures before) :
    ∃ earlier c' t' next', GoesOn ms earlier c' t' g next' ∧ earlier.length < before.length := by
  obtain ⟨c', t', hm⟩ := Moments.mem_failures.1 hmem
  obtain ⟨earlier, rest, rfl⟩ := List.append_of_mem hm
  obtain ⟨q, e, after, rfl⟩ := hg
  obtain ⟨m, tail, htail⟩ : ∃ m tail, rest ++ .failed c t f :: .asked next q e :: after = m :: tail := by
    cases rest <;> simp
  have hms : earlier ++ .failed c' t' g :: rest ++ .failed c t f :: .asked next q e :: after =
      earlier ++ [.failed c' t' g] ++ m :: tail := by
    rw [← htail]
    simp
  rw [hms] at h ⊢
  obtain ⟨next', hg'⟩ := h.goesOn_of_cons
  exact ⟨earlier, c', t', next', hg', by simp⟩

/-! ## Switches -/

/-- The endpoint changes in this way at the first failure of a kind, if it is able to. -/
def SwitchesAtFirst (s : Settings) (switch : Target → Target → Prop) (able : Prop) (kind : FailureKind) : Prop :=
  ∀ fs f, switch (s.targetAfter fs) (s.targetAfter (fs ++ [f])) ↔
    able ∧ (∀ g ∈ fs, g.effectiveKind ≠ kind) ∧ f.effectiveKind = kind

section
variable {switch : Target → Target → Prop} {able : Prop} {kind : FailureKind}
  (hswitch : s.SwitchesAtFirst switch able kind) (h : s.Told ms)
include hswitch h

theorem Told.switches_iff (hg : GoesOn ms before c t f next) :
    Switches switch ms before ↔
      able ∧ (∀ g ∈ failures before, g.effectiveKind ≠ kind) ∧ f.effectiveKind = kind := by
  obtain ⟨-, ht, hnext⟩ := h.goesOn hg
  rw [← hswitch, ← ht, ← hnext]
  constructor
  · rintro ⟨c', t', f', next', hg', hswitches⟩
    obtain ⟨rfl, rfl, rfl⟩ := hg.unique hg'
    exact hswitches
  · exact fun hswitches => ⟨c, t, f, next, hg, hswitches⟩

/-- After a switch, a failure of its kind is among those of the cycle. -/
theorem Told.kind_of_switches (hswitches : Switches switch ms before) {later : List Moment} (hlater : later <+: ms)
    (hlt : before.length < later.length) : able ∧ ∃ f ∈ failures later, f.effectiveKind = kind := by
  obtain ⟨c, t, f, next, hg, hmade⟩ := hswitches
  obtain ⟨hable, -, hkind⟩ := (h.switches_iff hswitch hg).1 ⟨c, t, f, next, hg, hmade⟩
  exact ⟨hable, f, hg.mem_failures hlater hlt, hkind⟩

/-- An earlier failure of the kind has made the cycle switch. -/
theorem Told.exists_switches (hable : able) (hg : GoesOn ms before c t f next) (hmem : g ∈ failures before)
    (hkind : g.effectiveKind = kind) :
    ∃ earlier : List Moment, earlier.length < before.length ∧ Switches switch ms earlier := by
  -- among the earlier places with a failure of the kind, the first one is a switch
  induction hn : before.length using Nat.strongRecOn generalizing before c t f next g with
  | ind n ih =>
    obtain ⟨earlier, c', t', next', hplace, hlt⟩ := h.exists_goesOn hg hmem
    by_cases hfresh : ∀ g ∈ failures earlier, g.effectiveKind ≠ kind
    · exact ⟨earlier, hn ▸ hlt, (h.switches_iff hswitch hplace).2 ⟨hable, hfresh, hkind⟩⟩
    · obtain ⟨g', hmem', hkind'⟩ : ∃ g' ∈ failures earlier, g'.effectiveKind = kind := by
        simpa using hfresh
      obtain ⟨first, hlt', hswitches⟩ := ih _ (hn ▸ hlt) hplace hmem' hkind' rfl
      exact ⟨first, by omega, hswitches⟩

/-- What a cycle does at the first failure of a kind, it does once. -/
theorem Told.switches_iff_first (hg : GoesOn ms before c t f next) :
    Switches switch ms before ↔ NoneEarlier (Switches switch ms) before ∧ able ∧ f.effectiveKind = kind := by
  rw [h.switches_iff hswitch hg]
  constructor
  · rintro ⟨hable, hfresh, hkind⟩
    refine ⟨fun earlier hlt hswitches => ?_, hable, hkind⟩
    have hbefore := (List.prefix_append _ _).trans hg.prefix_failed
    obtain ⟨-, g, hmem, hg'⟩ := h.kind_of_switches hswitch hswitches hbefore hlt
    exact hfresh g hmem hg'
  · rintro ⟨hfirst, hable, hkind⟩
    refine ⟨hable, fun g hmem hg' => ?_, hkind⟩
    obtain ⟨earlier, hlt, hswitches⟩ := h.exists_switches hswitch hable hg hmem hg'
    exact hfirst earlier hlt hswitches

end

theorem any_eq_false_iff {kind : FailureKind} {fs : List DriverFailure} :
    (fs.any fun f => decide (f.effectiveKind = kind)) = false ↔ ∀ g ∈ fs, g.effectiveKind ≠ kind := by
  simp

theorem switchesAtFirst_plain : s.SwitchesAtFirst
    (fun t t' => t.transport = .secure ∧ t'.transport = .plain ∧ t'.verify = false)
    (s.target.transport = .secure) .transport := by
  intro fs f
  rw [← any_eq_false_iff]
  cases hs : s.target.transport with
  | plain => simp [targetAfter, hs]
  | secure =>
    cases hany : fs.any (·.effectiveKind = .transport) <;> by_cases hf : f.effectiveKind = .transport <;>
      simp [targetAfter, plainAfter, hs, hany, hf, Transport.isSecure]

theorem switchesAtFirst_port (port : UInt16) : s.SwitchesAtFirst (fun t t' => t.port ≠ port ∧ t'.port = port)
    (s.fallbackPort = some port ∧ port ≠ s.target.port) .listener := by
  intro fs f
  have hother : ∀ p, s.otherPort = some p ↔ s.fallbackPort = some p ∧ p ≠ s.target.port := by
    simp [otherPort, Option.filter_eq_some_iff]
  rw [← any_eq_false_iff, ← hother]
  cases hany : fs.any (·.effectiveKind = .listener) <;> by_cases hf : f.effectiveKind = .listener <;>
    cases hport : s.otherPort <;> simp [targetAfter, portAfter, hany, hf, hport]
  -- what is left is the first failure of the listener, with another port to go to
  rintro rfl
  exact ((hother _).1 hport).2.symm

/-! ## By code, then by words -/

/-- How the cycle with these moments changes its endpoint; `c'` is the connection that it leaves. A failure that
the driver tells by its message calls for a fallback by the code in the message, and by its words only if they are
all there is. -/
structure SwitchesByCode (s : Settings) (ms : List Moment) (c' : Connection) : Prop where
  /-- The cycle goes on after a failed attempt, unless that was the last one of the policy. Then nothing changes. -/
  failed : ∀ before c t f, before ++ [.failed c t f] <+: ms →
    (c.progress.attempts < s.retry.maxAttempts ∧ ∃ next, GoesOn ms before c t f next) ∨
      (c.progress.attempts = s.retry.maxAttempts ∧ ms = before ++ [.failed c t f] ∧ c'.progress = c.progress)
  /-- The cycle leaves the secure transport if it did not do so before. -/
  plain : ∀ before c t message next, GoesOn ms before c t (VendorCode.connectFailure message) next →
    (SwitchesPlain ms before ↔ NoneEarlier (SwitchesPlain ms) before ∧
      s.target.transport = .secure ∧ VendorCode.TellsTransport message)
  /-- From there on every attempt is plain and unverified. -/
  staysPlain : ∀ (before later : List Moment) c t e, SwitchesPlain ms before → before.length < later.length →
    later ++ [.asked c (.openSession t) e] <+: ms → t.transport = .plain ∧ t.verify = false
  /-- The cycle goes over to the fallback port if it did not do so before. -/
  port : ∀ port before c t message next, GoesOn ms before c t (VendorCode.connectFailure message) next →
    (SwitchesTo port ms before ↔ NoneEarlier (SwitchesTo port ms) before ∧
      (s.fallbackPort = some port ∧ port ≠ s.target.port) ∧ VendorCode.TellsListener message)
  /-- From there on every attempt is at that port. -/
  staysAt : ∀ port (before later : List Moment) c t e, SwitchesTo port ms before → before.length < later.length →
    later ++ [.asked c (.openSession t) e] <+: ms → t.port = port

/-- An attempt goes where the failures before it lead. -/
theorem Told.attempt {later : List Moment} {e : Waited (Except DriverFailure SessionId)} (h : s.Told ms)
    (hlater : later ++ [.asked c (.openSession t) e] <+: ms) : t = s.targetAfter (failures later) := by
  cases h _ _ hlater with
  | attempt => rfl

theorem Told.switchesByCode {c' : Connection} (h : s.Told ms)
    (hfinal : ∀ before c t f, ms = before ++ [.failed c t f] →
      c.progress.attempts = s.retry.maxAttempts ∧ c'.progress = c.progress) : s.SwitchesByCode ms c' where
  failed before c t f hfailed := by
    obtain ⟨rest, rfl⟩ := hfailed
    cases rest with
    | nil =>
      rw [List.append_nil] at hfinal
      have := hfinal before c t f rfl
      exact .inr ⟨this.1, List.append_nil _, this.2⟩
    | cons m rest =>
      obtain ⟨next, hg⟩ := h.goesOn_of_cons
      exact .inl ⟨(h.goesOn hg).1, next, hg⟩
  plain before c t message next hg := by
    rw [← VendorCode.effectiveKind_eq_transport_iff]
    exact h.switches_iff_first switchesAtFirst_plain hg
  staysPlain before later c t e hswitches hlt hlater := by
    obtain ⟨hsecure, f, hmem, hkind⟩ :=
      h.kind_of_switches switchesAtFirst_plain hswitches ((List.prefix_append _ _).trans hlater) hlt
    have hplain : s.plainAfter (failures later) = true := by
      simp only [plainAfter, hsecure, Transport.isSecure, Bool.true_and, List.any_eq_true]
      exact ⟨f, hmem, by simpa using hkind⟩
    simp [h.attempt hlater, targetAfter, hplain]
  port port before c t message next hg := by
    rw [← VendorCode.effectiveKind_eq_listener_iff]
    exact h.switches_iff_first (switchesAtFirst_port port) hg
  staysAt port before later c t e hswitches hlt hlater := by
    obtain ⟨⟨hport, hne⟩, f, hmem, hkind⟩ :=
      h.kind_of_switches (switchesAtFirst_port port) hswitches ((List.prefix_append _ _).trans hlater) hlt
    have hother : s.portAfter (failures later) = some port := by
      have hany : (failures later).any (·.effectiveKind = .listener) = true :=
        List.any_eq_true.2 ⟨f, hmem, by simpa using hkind⟩
      rw [portAfter, if_pos hany, otherPort, hport]
      simp [Option.filter, hne]
    simp [h.attempt hlater, targetAfter, hother]

/-- A cycle that ends with a failed attempt has made all attempts, and the failure changes nothing in its notes. -/
theorem CycleRan.of_failed {base later : List Moment} {c' : Connection} {timed : Bool}
    {r : Option (Except Fault Unit)} (h : s.CycleRan timed later c' r)
    (hlast : base ++ later = before ++ [.failed c t f]) :
    c.progress.attempts = s.retry.maxAttempts ∧ c'.progress = c.progress := by
  cases h with
  | exhausted heq =>
    rw [← List.append_assoc] at hlast
    obtain ⟨-, hm⟩ := List.append_inj' hlast rfl
    cases hm
    exact ⟨heq, rfl⟩
  | opened | givenUp | late =>
    rw [← List.append_assoc] at hlast
    obtain ⟨-, hm⟩ := List.append_inj' hlast rfl
    cases hm

end Settings

/-- **Codes before words.** A listed code decides the kind of a failure to open a session, and with it whether a
cycle, with or without a deadline, leaves the secure transport or its port. -/
theorem connectBy_switchesByCode (c : Connection) (deadline : Option Duration) {σ : Type} (w : World σ) (st : σ) :
    VendorCode.CodesDecide ∧
      c.settings.SwitchesByCode ((c.connectBy deadline).moments w st)
        ((c.connectBy deadline).run w st).connection := by
  refine ⟨VendorCode.codesDecide, ?_⟩
  cases hopen : c.isOpen with
  | true =>
    rw [Connection.connectBy_of_open deadline hopen]
    exact Settings.told_nil.switchesByCode fun before _ _ _ h => absurd h.symm (by simp)
  | false =>
    obtain ⟨later, hms, hran⟩ := ensures_run (Connection.connectBy_ensures_of_left deadline hopen) w st
    rw [List.nil_append] at hms
    rw [hms]
    exact (hran.told (Settings.ahead_released _)).switchesByCode fun _ _ _ _ => hran.of_failed

/-- A port at which nothing listens, in words of a broken handshake, then a wallet that is not found, under a code
that is not listed. -/
def Outcomes.misleading : Outcomes
  | 0 => .error (VendorCode.connectFailure "ORA-12541: bad TLS handshake")
  | 1 => .error (VendorCode.connectFailure "ORA-00600: no Wallet")
  | n => .ok n

theorem moments_misleading :
    let f := VendorCode.connectFailure "ORA-12541: bad TLS handshake"
    let g := VendorCode.connectFailure "ORA-00600: no Wallet"
    (Connection.connectBy none { settings := .guarded }).moments Outcomes.misleading.world 0 =
      Settings.guarded.retried [f, g] ++ [Settings.guarded.attempt [f, g] (.answered (.ok 2))] := by
  intro f g
  obtain ⟨later, hms, hran⟩ :=
    ensures_run (Connection.connectBy_ensures_of_left (c := { settings := .guarded }) none rfl)
      Outcomes.misleading.world 0
  have hresult : ((Connection.connectBy none { settings := .guarded }).run Outcomes.misleading.world 0).result =
      some (.ok ()) := by decide +kernel
  have houtcomes : outcomes ((Connection.connectBy none { settings := .guarded }).moments
      Outcomes.misleading.world 0) = [f, g].map .error ++ [.ok 2] := by decide +kernel
  rw [hresult] at hran
  obtain ⟨fs, x, -, -, rfl, -⟩ := hran.finished
  change _ = Settings.guarded.retried fs ++ [Settings.guarded.attempt fs (.answered x)] at hms
  rw [List.nil_append] at hms
  rw [hms, Settings.outcomes_finished] at houtcomes
  obtain ⟨hfs, hx⟩ := List.append_inj' houtcomes rfl
  cases hx
  rw [hms, List.map_injective_iff.2 (fun _ _ => Except.error.inj) hfs]

/-- The port is left after the first failure, whose words are those of a handshake, and the secure transport after the
second, whose code is not listed. -/
theorem connectBy_switchesByCode_misleading :
    let s := Settings.guarded
    let f := VendorCode.connectFailure "ORA-12541: bad TLS handshake"
    let g := VendorCode.connectFailure "ORA-00600: no Wallet"
    let ms := (Connection.connectBy none { settings := s }).moments Outcomes.misleading.world 0
    GoesOn ms [] (s.midCycle [] 1) s.target f (s.midCycle [f] 1) ∧
      SwitchesTo 1521 ms [] ∧ ¬ SwitchesPlain ms [] ∧
      GoesOn ms (s.retried [f]) (s.midCycle [f] 2) (s.target.atPort 1521) g (s.midCycle [f, g] 2) ∧
      SwitchesPlain ms (s.retried [f]) ∧ ¬ SwitchesTo 1521 ms (s.retried [f]) := by
  intro s f g ms
  have hms : ms = s.retried [f, g] ++ [s.attempt [f, g] (.answered (.ok 2))] := moments_misleading
  have hfirst : GoesOn ms [] (s.midCycle [] 1) s.target f (s.midCycle [f] 1) := by
    rw [hms]
    exact ⟨_, _, _, rfl⟩
  have hsecond : GoesOn ms (s.retried [f]) (s.midCycle [f] 2) (s.target.atPort 1521) g (s.midCycle [f, g] 2) := by
    rw [hms]
    exact ⟨_, _, _, rfl⟩
  have hf : VendorCode.TellsListener "ORA-12541: bad TLS handshake" ∧
      ¬ VendorCode.TellsTransport "ORA-12541: bad TLS handshake" := by
    rw [← VendorCode.effectiveKind_eq_listener_iff, ← VendorCode.effectiveKind_eq_transport_iff]
    decide +kernel
  have hg : VendorCode.TellsTransport "ORA-00600: no Wallet" := by
    rw [← VendorCode.effectiveKind_eq_transport_iff]
    decide +kernel
  have hswitches := (connectBy_switchesByCode { settings := s } none Outcomes.misleading.world 0).2
  have hport : SwitchesTo 1521 ms [] :=
    (hswitches.port 1521 _ _ _ _ _ hfirst).2 ⟨fun _ h => absurd h (Nat.not_lt_zero _), ⟨rfl, by decide⟩, hf.1⟩
  have hstays : ¬ SwitchesPlain ms [] := fun h => hf.2 ((hswitches.plain _ _ _ _ _ hfirst).1 h).2.2
  have hfresh : NoneEarlier (SwitchesPlain ms) (s.retried [f]) := by
    intro earlier hlt h
    match earlier, hlt with
    | [], _ => exact hstays h
    | [_], _ =>
      -- there the cycle waits
      obtain ⟨_, _, _, _, ⟨_, _, _, heq⟩, -⟩ := h
      rw [hms] at heq
      cases heq
    | _ :: _ :: later, hlt =>
      have htwo : (s.retried [f]).length = 2 := rfl
      simp only [htwo, List.length_cons] at hlt
      omega
  exact ⟨hfirst, hport, hstays, hsecond, (hswitches.plain _ _ _ _ _ hsecond).2 ⟨hfresh, rfl, hg⟩,
    fun h => ((hswitches.port 1521 _ _ _ _ _ hsecond).1 h).1 [] (by decide) hport⟩

end OracleIntake
