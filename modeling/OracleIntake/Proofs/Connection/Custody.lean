import OracleIntake.Proofs.Connection.Hand
import OracleIntake.Proofs.Connection.Invariant

/-!
# The custody of sessions

A connection keeps its sessions in order: what is alive is what it holds, at every time and whatever the driver
answers. Every call makes only the moves of `Hand.Step`; what follows from the moves then holds of whole lives.

* `keeps_custody`: the parts of a call make only these moves.
* `life_sessionsKept`: how the sessions of a life are kept.
-/
namespace OracleIntake
open Dialogue Moments Hand

/-! ## The moves of a cycle -/

namespace Settings
variable {s : Settings} {fs : List DriverFailure}

theorem step_attempt {e : Waited (Except DriverFailure SessionId)} (h : (s.attempt fs e).opens? = none) :
    Step empty (s.attempt fs e) empty := .idles rfl rfl h

theorem step_retried {m : Moment} (h : m ∈ s.retried fs) : Step empty m empty := by
  obtain ⟨gs, -, ⟨-, f, rfl⟩ | h⟩ := s.mem_retried fs h
  · exact step_attempt rfl
  · rw [s.eq_of_mem_pause gs h]
    exact .idles rfl rfl rfl

theorem Waits.idle {ms : List Moment} {c : Connection} {q : Request} (h : s.Waits ms c q) :
    (∀ m ∈ ms, Step empty m empty) ∧ c.session = none ∧ q.session? = none := by
  cases h with
  | attempt => exact ⟨fun _ => step_retried, rfl, rfl⟩
  | pause =>
    refine ⟨fun m hm => ?_, rfl, rfl⟩
    rcases List.mem_append.1 hm with hm | hm
    · exact step_retried hm
    · cases List.mem_singleton.1 hm
      exact step_attempt rfl

/-- A cycle makes its moves with an empty hand; only the last may hand out a session. -/
theorem CycleRan.steps {timed : Bool} {ms : List Moment} {c : Connection} {r : Option (Except Fault Unit)}
    (h : s.CycleRan timed ms c r) :
    ∃ ms' m, ms = ms' ++ [m] ∧ (∀ m' ∈ ms', Step empty m' empty) ∧ Step empty m (.of c.session) := by
  cases h with
  | opened => exact ⟨_, _, rfl, fun _ => step_retried, .opens rfl⟩
  | exhausted => exact ⟨_, _, rfl, fun _ => step_retried, step_attempt rfl⟩
  | givenUp hw =>
    obtain ⟨hidle, hsession, hq⟩ := hw.idle
    have hstep := Step.idles hsession hq Moment.opens_cut.1
    obtain ⟨fs, n, rfl⟩ := hw.midCycle
    rw [abandoned_midCycle]
    exact ⟨_, _, rfl, hidle, hstep⟩
  | late elapsed _ hw =>
    obtain ⟨hidle, hsession, hq⟩ := hw.idle
    exact ⟨_, _, rfl, hidle, .idles hsession hq Moment.opens_cut.2⟩

theorem CycleRan.run {timed : Bool} {ms : List Moment} {c : Connection} {r : Option (Except Fault Unit)}
    (h : s.CycleRan timed ms c r) : Hand.Run empty ms (.of c.session) := by
  obtain ⟨ms', m, rfl, hidle, hlast⟩ := h.steps
  exact (Run.idle hidle).snoc hlast

theorem CycleRan.asks_none {timed : Bool} {ms : List Moment} {c : Connection} {r : Option (Except Fault Unit)}
    (h : s.CycleRan timed ms c r) {m : Moment} (hm : m ∈ ms) : m.asks? = none := by
  obtain ⟨ms', m', rfl, hidle, hlast⟩ := h.steps
  rcases List.mem_append.1 hm with hm | hm
  · exact (hidle m hm).asks_none
  · rw [List.mem_singleton.1 hm]
    exact hlast.asks_none

end Settings

/-! ## The moves of a call -/

namespace Connection
variable {s : Settings} {c : Connection} {hand : Hand} {past : List Moment}

/-- The connection is sound, and the moments lead from the hand to what it holds. -/
def InCustody (s : Settings) (hand : Hand) (ms : List Moment) (c : Connection) : Prop :=
  c.Sound s ∧ Hand.Run hand ms (.of c.session)

theorem connectBy_custody (h : InCustody s hand [] c) (deadline : Option Duration) :
    (c.connectBy deadline).Ensures (orderlyPost (InCustody s hand)) [] := by
  obtain ⟨hsound, hrun⟩ := h
  cases ho : c.isOpen with
  | true =>
    rw [connectBy_of_open deadline ho]
    exact fun _ => ⟨hsound, hrun⟩
  | false =>
    have hnone := (hsound.eq_none ho).1
    have hran := connectBy_ensures deadline ho hnone
    rw [hsound.settings] at hran
    rw [hnone] at hrun
    cases hrun
    exact hran.mono fun _ _ _ hr _ => ⟨hr.sound, hr.run⟩

theorem inquire_custody {α : Type} (h : InCustody s hand past c) (sql : String) (i : Inquiry α) :
    (c.inquire sql i).Ensures (orderlyPost (InCustody s hand)) past := by
  obtain ⟨hsound, hrun⟩ := h
  refine withSession_ensures (fun _ => ⟨hsound, hrun⟩) fun session _ hsession => ?_
  have hheld : Hand.Run hand past (held session) := by rwa [hsession] at hrun
  have hof : Hand.of c.session = held session := by rw [hsession]; rfl
  refine ⟨fun _ => ?_, fun a => settle_ensures (fun hkept r _ => ?_) fun hlost f hfatal hprogress _ => ?_⟩
  · rw [hsound.abandoned]
    refine ⟨hsound, ?_⟩
    rw [hof]
    exact hheld.snoc (.serves hsession (i.session_eq _) (i.owned_eq _) (Moment.ends_givenUp (i.owned_eq _)))
  · refine ⟨hsound, ?_⟩
    rw [hof]
    refine hheld.snoc (.serves hsession (i.session_eq _) (i.owned_eq _) ?_)
    exact Moment.ends_answered (i.owned_eq _) (by rwa [i.loss_eq])
  · refine ⟨hsound.broken hfatal hprogress, ?_⟩
    rw [hsession]
    refine (hheld.snoc (.loses hsession (i.session_eq _) (i.owned_eq _) ?_)).snoc .releases
    rwa [i.loss_eq]

theorem disconnect_custody (h : InCustody s hand past c) :
    c.disconnect.Ensures (orderlyPost (InCustody s hand)) past := by
  obtain ⟨hsound, hrun⟩ := h
  unfold disconnect
  split
  · rename_i session hsession
    rw [hsession] at hrun
    exact ⟨fun ho => absurd rfl (orderly_givenUp.1 ho session),
      fun _ _ => ⟨hsound.closed, (hrun.snoc (.closes rfl)).snoc .releases⟩⟩
  · rename_i hnone
    rw [hnone] at hrun
    exact fun _ => ⟨hsound.closed, hrun⟩

theorem keeps_custody (s : Settings) (hand : Hand) : Keeps (InCustody s hand) where
  connects deadline h := connectBy_custody h deadline
  inquires sql i h := inquire_custody h sql i
  disconnects h := disconnect_custody h

/-! ## Closing -/

/-- No session is closed. -/
def Closeless (ms : List Moment) : Prop := ∀ c s e, .asked c (.close s) e ∉ ms

theorem connectBy_closeless (hsound : c.Sound s) (deadline : Option Duration) :
    (c.connectBy deadline).Ensures (orderlyPost fun ms _ => Closeless ms) [] := by
  cases ho : c.isOpen with
  | true =>
    rw [connectBy_of_open deadline ho]
    exact fun _ _ _ _ => List.not_mem_nil
  | false =>
    refine (connectBy_ensures deadline ho (hsound.eq_none ho).1).mono fun ms c' r hr _ c'' s' e hm => ?_
    cases hr.asks_none hm

theorem inquire_closeless {α : Type} (h : Closeless past) (sql : String) (i : Inquiry α) :
    (c.inquire sql i).Ensures (orderlyPost fun ms _ => Closeless ms) past := by
  have hsnoc : ∀ session (e : Waited (i.request session).Answer),
      Closeless (past ++ [.asked c (i.request session) e]) := by
    intro session e c' s' e' hm
    rcases List.mem_append.1 hm with hm | hm
    · exact h c' s' e' hm
    · have howned := i.owned_eq session
      rw [List.mem_singleton, Moment.asked.injEq] at hm
      rw [← hm.2.1] at howned
      cases howned
  refine withSession_ensures (fun _ => h) fun session _ _ => ⟨fun _ => hsnoc _ _, fun a => ?_⟩
  refine settle_ensures (fun _ _ _ => hsnoc _ _) fun _ _ _ _ _ c' s' e' hm => ?_
  rcases List.mem_append.1 hm with hm | hm
  · exact hsnoc _ _ c' s' e' hm
  · simp at hm

/-- Only the session that the connection holds is closed by disconnecting. -/
theorem disconnect_closes :
    c.disconnect.Ensures
      (fun ms _ _ => ∀ c' s' e, .asked c' (.close s') e ∈ ms → c.session = some s') [] := by
  unfold disconnect
  split
  · rename_i session hsession
    constructor
    · intro c' s' e hm
      cases List.mem_singleton.1 hm
      exact hsession
    · intro a c' s' e hm
      rcases List.mem_cons.1 hm with hm | hm
      · cases hm
        exact hsession
      · cases List.mem_singleton.1 hm
  · exact fun _ _ _ hm => absurd hm List.not_mem_nil

theorem check_closeless (ho : c.isOpen = true) (deadline : Option Duration) :
    (c.check deadline).Ensures (orderlyPost fun ms _ => Closeless ms) [] := by
  have hcheck : c.check deadline =
      c.probe.andThen fun c' found => reported (probeReport c.endpointReport found) c' := by
    simp [check, connectBy_of_open deadline ho, andThen, ho]
  rw [hcheck]
  have hprobe : c.probe.Ensures (orderlyPost fun ms _ => Closeless ms) [] :=
    probe_ensures (fun sql i h => inquire_closeless h sql i) fun _ _ _ => List.not_mem_nil
  exact hprobe.andThen (fun _ _ h => h) fun _ _ _ h => h

/-- Only disconnecting closes a session, and a check only the one that it opened. -/
theorem closes_of_call (hsound : c.Sound s) (call : Call) {σ : Type} (w : World σ) (st : σ)
    (ho : Orderly ((call.dialogue c).moments w st) ((call.dialogue c).run w st).result.isSome)
    {pre post : List Moment} {c' : Connection} {s' : SessionId} {e : Waited (Request.close s').Answer}
    (hms : (call.dialogue c).moments w st = pre ++ .asked c' (.close s') e :: post) :
    (call = .disconnect ∧ c.session = some s') ∨
      ((∃ deadline, call = .check deadline) ∧ c.isOpen = false ∧ ∃ o ∈ pre, o.opens? = some s') := by
  have hmem : .asked c' (.close s') e ∈ (call.dialogue c).moments w st := by simp [hms]
  have hcloseless : ¬ (call.dialogue c).Ensures (orderlyPost fun ms _ => Closeless ms) [] :=
    fun h => ensures_run h w st ho _ _ _ hmem
  cases call with
  | connect deadline => exact absurd (connectBy_closeless hsound deadline) hcloseless
  | disconnect => exact .inl ⟨rfl, ensures_run disconnect_closes w st _ _ _ hmem⟩
  | execute sql params =>
    exact absurd (inquire_closeless (fun _ _ _ => List.not_mem_nil) sql (.execute sql params)) hcloseless
  | query sql params =>
    exact absurd (inquire_closeless (fun _ _ _ => List.not_mem_nil) sql (.query sql params)) hcloseless
  | check deadline =>
    cases hopen : c.isOpen with
    | true => exact absurd (check_closeless hopen deadline) hcloseless
    | false =>
      -- nothing is in hand at first, so the session was handed out during the check
      have hstart : InCustody s empty [] c := ⟨hsound, by rw [(hsound.eq_none hopen).1]; exact .nil empty⟩
      have hrun := (ensures_run ((keeps_custody s empty).call hstart (.check deadline)) w st ho).2
      rw [List.nil_append, hms] at hrun
      exact .inr ⟨⟨deadline, rfl⟩, rfl, hrun.opens_of_asks nofun rfl⟩

end Connection

/-! ## The sessions of a life -/

/-- A life leads from an empty hand to what the connection holds. -/
theorem Life.run {s : Settings} {past : List Episode} {c : Connection} (h : Life s past c) :
    Hand.Run empty (history past) (.of c.session) := by
  induction h with
  | fresh => exact .nil empty
  | @call past c σ w st call hlife ho ih =>
    have hstart : Connection.InCustody s (.of c.session) [] c :=
      ⟨Connection.sound_of_reachable ⟨past, hlife⟩, .nil _⟩
    have hrun := (ensures_run ((Connection.keeps_custody s _).call hstart call) w st ho).2
    rw [history_snoc]
    exact ih.append hrun

/-- In a life only disconnecting closes a session, and a check only the one that it opened. -/
theorem Life.closes {s : Settings} {past : List Episode} {c : Connection} (h : Life s past c) :
    ∀ episode ∈ past, ∀ pre c' s e post, episode.moments = pre ++ .asked c' (.close s) e :: post →
      (episode.call = .disconnect ∧ episode.before.session = some s) ∨
        ((∃ deadline, episode.call = .check deadline) ∧ episode.before.isOpen = false ∧
          ∃ o ∈ pre, o.opens? = some s) := by
  induction h with
  | fresh => exact fun _ he => absurd he List.not_mem_nil
  | @call past c σ w st call hlife ho ih =>
    intro episode he pre c' s' e post hms
    rcases List.mem_append.1 he with he | he
    · exact ih episode he pre c' s' e post hms
    · cases List.mem_singleton.1 he
      exact Connection.closes_of_call (Connection.sound_of_reachable ⟨past, hlife⟩) call w st ho hms

/-- How the sessions of a life are kept, at its end `c` and at every time before. -/
structure SessionsKept (past : List Episode) (c : Connection) : Prop where
  /-- One session is alive if the connection is open, and none if it is not. -/
  alive : (Log.alive (events (history past))).length = if c.lifecycle = .opened then 1 else 0
  /-- Each session was let go as often as it was handed out, but for the one that the connection holds. -/
  once : ∀ s, (events (history past)).count (.opened s) =
    (events (history past)).count (.released s) + if c.session = some s then 1 else 0
  /-- Never were two sessions alive, nor was one let go that was not alive. -/
  balanced : Log.Balanced (events (history past))
  /-- At every wait the session that is alive was with the connection or, while it was closed, with the
  request. -/
  held : ∀ pre c' q e post, history past = pre ++ .asked c' q e :: post →
    Log.alive (events pre) = c'.session.toList ++ q.owned
  /-- Only disconnecting closed a session, and a check only the one that it had opened. -/
  closed : ∀ episode ∈ past, ∀ pre c' s e post, episode.moments = pre ++ .asked c' (.close s) e :: post →
    (episode.call = .disconnect ∧ episode.before.session = some s) ∨
      ((∃ deadline, episode.call = .check deadline) ∧ episode.before.isOpen = false ∧
        ∃ o ∈ pre, o.opens? = some s)
  /-- Nothing was asked of a session that was closed or lost, be it to close, unless it was handed out again. -/
  silent : ∀ pre m mid m' post s, history past = pre ++ m :: (mid ++ m' :: post) →
    m.ends? = some s → m'.asks? = some s → ∃ o ∈ mid, o.opens? = some s
  /-- Nothing stays alive when the connection is given up for good. -/
  dropped : Log.alive (events (history past) ++ c.drop) = []

/-- **Custody.** Throughout a life its sessions are kept. -/
theorem life_sessionsKept {s : Settings} {past : List Episode} {c : Connection} (h : Life s past c) :
    SessionsKept past c := by
  have hrun := h.run
  have hsound := Connection.sound_of_reachable ⟨past, h⟩
  obtain ⟨hbalanced, halive⟩ := hrun.balanced Log.balanced_nil rfl
  rw [List.nil_append] at hbalanced halive
  rw [sessions_of] at halive
  constructor
  · rw [halive]
    by_cases ho : c.lifecycle = .opened
    · obtain ⟨session, hsession⟩ := Option.isSome_iff_exists.1 (hsound.session.1 ho)
      simp [ho, hsession]
    · have hnone : c.session = none := by simpa using fun hs => ho (hsound.session.2 hs)
      simp [ho, hnone]
  · intro session
    rw [(hbalanced _ List.prefix_rfl).2 session, halive]
    cases c.session with
    | none => rfl
    | some session' => simp [List.count_singleton]
  · exact hbalanced
  · intro pre c' q e post hms
    rw [hms] at hrun
    obtain ⟨k, hpre, hrest⟩ := hrun.split
    obtain ⟨-, hk⟩ := hpre.balanced Log.balanced_nil rfl
    cases hrest with
    | cons hs _ => rwa [List.nil_append, hs.sessions_eq] at hk
  · exact h.closes
  · intro pre m mid m' post session hms hends hasks
    rw [hms] at hrun
    exact hrun.silent hends hasks
  · unfold Connection.drop
    cases hs : c.session with
    | none => simpa [hs] using halive
    | some session =>
      rw [hs] at halive
      simp [Log.alive_released, halive]

/-- A session is opened for a check and closed after it; the next one is lost during a query. -/
theorem life_sessionsKept_lostInQuery :
    ∃ past c, SessionsKept past c ∧ events (history past) = [
      .asked (.openSession Settings.guarded.target), .opened 0, .asked (.serverVersion 0),
      .asked (.currentUser 0), .asked (.close 0), .released 0,
      .asked (.openSession Settings.guarded.target), .opened 1,
      .asked (.query 1 "select 1 from dual" .none), .released 1] := by
  obtain ⟨past, hlife, hlog⟩ := life_makeAll Script.world
    [.check none, .connect none, .query "select 1 from dual" .none]
    (x := ⟨{ settings := .guarded }, { queries := [.fails Standin.lostSession] }, []⟩)
    .fresh rfl ⟨.inl (by decide +kernel), .inl (by decide +kernel), .inl (by decide +kernel), trivial⟩
  exact ⟨past, _, life_sessionsKept hlife, hlog.symm.trans (by decide +kernel)⟩

end OracleIntake
