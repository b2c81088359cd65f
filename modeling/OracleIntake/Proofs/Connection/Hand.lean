import OracleIntake.Proofs.Connection.Parts
import OracleIntake.Rehearsal.Log

/-!
# The session in hand

How a session may go through the hands of a connection: it is handed out when none is there, it is asked for
something while it is held, it is spent once it was closed or told that it is lost, and a spent session is let
go before anything else happens. `Hand.Step` has a case for each of these moves and no other; whoever wants to
know that no session is leaked, doubled or let go twice looks at the steps.

* `Run.balanced`: at every time at most one session is alive, and each was let go as often as it was handed
  out, but for the one that is alive.
* `Run.silent`: a spent session is asked for nothing, unless the driver hands it out again.
-/
namespace OracleIntake
open Dialogue Moments

namespace Moment

/-- The session that is handed out. -/
def opens? : Moment → Option SessionId
  | asked _ (.openSession _) (.answered (.ok s)) => some s
  | _ => none

/-- The session that is asked for something. -/
def asks? : Moment → Option SessionId
  | asked _ q _ => q.session?
  | released _ => none

/-- The session that is of no more use: it is closed, or it tells that it is lost. -/
def ends? : Moment → Option SessionId
  | asked _ (.close s) _ => some s
  | asked _ q (.answered a) => if q.tellsLoss a then q.session? else none
  | _ => none

theorem asks_of_ends {m : Moment} {s : SessionId} (h : m.ends? = some s) : m.asks? = some s := by
  unfold ends? at h
  split at h
  · exact h
  · split at h
    · exact h
    · cases h
  · cases h

theorem ends_givenUp {c : Connection} {q : Request} (h : q.owned = []) : (asked c q .givenUp).ends? = none := by
  cases q with
  | close => cases h
  | _ => rfl

theorem ends_answered {c : Connection} {q : Request} {a : q.Answer} (h : q.owned = [])
    (ha : q.tellsLoss a = false) : (asked c q (.answered a)).ends? = none := by
  cases q with
  | close => cases h
  | openSession | wait => rfl
  | _ => exact if_neg (by simp [ha])

theorem opens_cut {c : Connection} {q : Request} :
    (asked c q .givenUp).opens? = none ∧ (asked c q .late).opens? = none := by
  cases q <;> exact ⟨rfl, rfl⟩

theorem opens_of_asks {c : Connection} {q : Request} {e : Waited q.Answer} {s : SessionId}
    (h : q.session? = some s) : (asked c q e).opens? = none := by
  cases q with
  | openSession => cases h
  | _ => rfl

/-- What the world sees of a request that is answered without a session, or given up without closing one. -/
theorem events_asked {c : Connection} {q : Request} {e : Waited q.Answer}
    (hopens : (asked c q e).opens? = none) (howned : q.owned = [] ∨ ∃ a, e = .answered a) :
    (asked c q e).events = [.asked q] := by
  cases e with
  | answered a =>
    cases q with
    | openSession t =>
      cases a with
      | ok s => cases hopens
      | error f => rfl
    | _ => rfl
  | late | givenUp =>
    rcases howned with howned | ⟨a, ha⟩
    · simp [events, howned]
    · cases ha

end Moment

/-! ## Balanced logs -/

namespace Log
variable {log : List Event} {s : SessionId}

theorem alive_asked (log : List Event) (q : Request) : alive (log ++ [.asked q]) = alive log := by
  simp [alive]

theorem alive_opened (log : List Event) (s : SessionId) : alive (log ++ [.opened s]) = s :: alive log := by
  simp [alive]

theorem alive_released (log : List Event) (s : SessionId) :
    alive (log ++ [.released s]) = (alive log).erase s := by
  simp [alive]

/-- At most one session is alive, and each was handed out as often as it was let go, or once more if it is
alive. So it was at every time before. -/
def Balanced (log : List Event) : Prop :=
  ∀ pre, pre <+: log → (alive pre).length ≤ 1 ∧
    ∀ s, pre.count (.opened s) = pre.count (.released s) + (alive pre).count s

theorem balanced_nil : Balanced [] := by
  intro pre hpre
  rw [List.prefix_nil.1 hpre]
  exact ⟨Nat.zero_le _, fun _ => rfl⟩

theorem Balanced.snoc (h : Balanced log) {e : Event} (hone : (alive (log ++ [e])).length ≤ 1)
    (hcount : ∀ s, (log ++ [e]).count (.opened s) =
      (log ++ [e]).count (.released s) + (alive (log ++ [e])).count s) : Balanced (log ++ [e]) := by
  intro pre hpre
  rcases List.prefix_concat_iff.1 hpre with rfl | hpre
  · exact ⟨hone, hcount⟩
  · exact h pre hpre

theorem Balanced.asked (h : Balanced log) (q : Request) : Balanced (log ++ [.asked q]) := by
  obtain ⟨hone, hcount⟩ := h log List.prefix_rfl
  refine h.snoc (by rwa [alive_asked]) fun s => ?_
  simp [alive_asked, hcount s]

theorem Balanced.opened (h : Balanced log) (hnone : alive log = []) (s : SessionId) :
    Balanced (log ++ [.opened s]) := by
  obtain ⟨-, hcount⟩ := h log List.prefix_rfl
  refine h.snoc (by simp [alive_opened, hnone]) fun s' => ?_
  have hs := hcount s'
  by_cases he : s = s'
  · subst he
    simp [alive_opened, hnone] at hs ⊢
    omega
  · simp [alive_opened, hnone, he] at hs ⊢
    omega

theorem Balanced.released (h : Balanced log) (hone : alive log = [s]) : Balanced (log ++ [.released s]) := by
  obtain ⟨-, hcount⟩ := h log List.prefix_rfl
  refine h.snoc (by simp [alive_released, hone]) fun s' => ?_
  have hs := hcount s'
  by_cases he : s = s'
  · subst he
    simp [alive_released, hone] at hs ⊢
    omega
  · simp [alive_released, hone, he] at hs ⊢
    omega

end Log

/-! ## Moves -/

theorem Request.owned_eq_nil {q : Request} (h : q.session? = none) : q.owned = [] := by
  cases q with
  | close => cases h
  | _ => rfl

/-- What is in hand of the sessions that were handed out. -/
inductive Hand where
  | empty
  | held (session : SessionId)
  /-- The session is of no more use, but not let go yet. -/
  | spent (session : SessionId)

namespace Hand

/-- The hand of a connection between its calls. -/
def of : Option SessionId → Hand
  | none => empty
  | some s => held s

def sessions : Hand → List SessionId
  | empty => []
  | held s | spent s => [s]

@[simp] theorem sessions_of (session : Option SessionId) : (of session).sessions = session.toList := by
  cases session <;> rfl

/-- The move that a moment makes. -/
inductive Step : Hand → Moment → Hand → Prop where
  /-- A session is handed out. -/
  | opens {c : Connection} {target : Target} {s : SessionId} :
    c.session = none → Step empty (.asked c (.openSession target) (.answered (.ok s))) (held s)
  /-- No session is handed out, and none is there to be asked. -/
  | idles {c : Connection} {q : Request} {e : Waited q.Answer} :
    c.session = none → q.session? = none → (Moment.asked c q e).opens? = none →
    Step empty (.asked c q e) empty
  /-- The session is asked and goes on. -/
  | serves {c : Connection} {q : Request} {e : Waited q.Answer} {s : SessionId} :
    c.session = some s → q.session? = some s → q.owned = [] → (Moment.asked c q e).ends? = none →
    Step (held s) (.asked c q e) (held s)
  /-- The session tells that it is lost. -/
  | loses {c : Connection} {q : Request} {a : q.Answer} {s : SessionId} :
    c.session = some s → q.session? = some s → q.owned = [] → q.tellsLoss a = true →
    Step (held s) (.asked c q (.answered a)) (spent s)
  /-- The session is closed, after the connection has given it out of its hands. -/
  | closes {c : Connection} {s : SessionId} {a : (Request.close s).Answer} :
    c.session = none → Step (held s) (.asked c (.close s) (.answered a)) (spent s)
  /-- A spent session is let go. -/
  | releases {s : SessionId} : Step (spent s) (.released s) empty

inductive Run : Hand → List Moment → Hand → Prop where
  | nil (h : Hand) : Run h [] h
  | cons {h k k' : Hand} {m : Moment} {ms : List Moment} : Step h m k → Run k ms k' → Run h (m :: ms) k'

variable {h k k' : Hand} {m : Moment} {ms ns : List Moment} {s : SessionId}

theorem Run.idle (h : ∀ m ∈ ms, Step empty m empty) : Run empty ms empty := by
  induction ms with
  | nil => exact .nil empty
  | cons m ms ih =>
    exact .cons (h m List.mem_cons_self) (ih fun m' hm' => h m' (List.mem_cons_of_mem m hm'))

theorem Run.append (hr : Run h ms k) (hr' : Run k ns k') : Run h (ms ++ ns) k' := by
  induction hr with
  | nil => exact hr'
  | cons hs _ ih => exact .cons hs (ih hr')

theorem Run.snoc (hr : Run h ms k) (hs : Step k m k') : Run h (ms ++ [m]) k' :=
  hr.append (.cons hs (.nil k'))

theorem Run.split (hr : Run h (ms ++ ns) k') : ∃ k, Run h ms k ∧ Run k ns k' := by
  induction ms generalizing h with
  | nil => exact ⟨h, .nil h, hr⟩
  | cons m ms ih =>
    cases hr with
    | cons hs hr =>
      obtain ⟨k, hk, hk'⟩ := ih hr
      exact ⟨k, .cons hs hk, hk'⟩

/-! ## What the moves keep -/

/-- While a call waits, the sessions that are alive are the one that the connection holds and the one that the
request has taken over. -/
theorem Step.sessions_eq {c : Connection} {q : Request} {e : Waited q.Answer} (hs : Step h (.asked c q e) k) :
    h.sessions = c.session.toList ++ q.owned := by
  cases hs with
  | opens hc => rw [hc]; rfl
  | idles hc hq _ => rw [hc, Request.owned_eq_nil hq]; rfl
  | serves hc _ ho _ => rw [hc, ho]; rfl
  | loses hc _ ho _ => rw [hc, ho]; rfl
  | closes hc => rw [hc]; rfl

/-- **Balance, one step.** A move keeps the log balanced, and what is alive is what is in hand. -/
theorem Step.balanced (hs : Step h m k) {log : List Event} (hb : Log.Balanced log)
    (ha : Log.alive log = h.sessions) :
    Log.Balanced (log ++ m.events) ∧ Log.alive (log ++ m.events) = k.sessions := by
  cases hs with
  | @opens c target s _ =>
    have hm : (Moment.asked c (.openSession target) (.answered (.ok s))).events =
        [.asked (.openSession target), .opened s] := rfl
    have ha' : Log.alive (log ++ [.asked (.openSession target)]) = [] := by rw [Log.alive_asked, ha]; rfl
    rw [hm, List.append_cons]
    exact ⟨(hb.asked _).opened ha' s, by rw [Log.alive_opened, ha']; rfl⟩
  | idles _ hq ho =>
    rw [Moment.events_asked ho (.inl (Request.owned_eq_nil hq)), Log.alive_asked]
    exact ⟨hb.asked _, ha⟩
  | serves _ hq ho _ =>
    rw [Moment.events_asked (Moment.opens_of_asks hq) (.inl ho), Log.alive_asked]
    exact ⟨hb.asked _, ha⟩
  | loses _ hq ho _ =>
    rw [Moment.events_asked (Moment.opens_of_asks hq) (.inl ho), Log.alive_asked]
    exact ⟨hb.asked _, ha⟩
  | closes _ =>
    rw [Moment.events_asked rfl (.inr ⟨_, rfl⟩), Log.alive_asked]
    exact ⟨hb.asked _, ha⟩
  | @releases s =>
    refine ⟨hb.released ha, ?_⟩
    change Log.alive (log ++ [.released s]) = []
    rw [Log.alive_released, ha]
    simp [sessions]

/-- **Balance.** -/
theorem Run.balanced (hr : Run h ms k) {log : List Event} (hb : Log.Balanced log)
    (ha : Log.alive log = h.sessions) :
    Log.Balanced (log ++ events ms) ∧ Log.alive (log ++ events ms) = k.sessions := by
  induction hr generalizing log with
  | nil => simpa [events] using And.intro hb ha
  | @cons h k k' m ms hs _ ih =>
    obtain ⟨hb', ha'⟩ := hs.balanced hb ha
    simpa [events] using ih hb' ha'

theorem Step.held_of_asks (hs : Step h m k) (hm : m.asks? = some s) : h = held s := by
  cases hs with
  | opens => cases hm
  | idles _ hq _ => rw [Moment.asks?, hq] at hm; cases hm
  | serves _ hq _ _ | loses _ hq _ _ =>
    rw [Moment.asks?, hq] at hm
    cases hm
    rfl
  | closes => cases hm; rfl
  | releases => cases hm

theorem Step.asks_none (hs : Step empty m k) : m.asks? = none := by
  cases hm : m.asks? with
  | none => rfl
  | some s => cases hs.held_of_asks hm

theorem Step.spent_of_ends (hs : Step h m k) (hm : m.ends? = some s) : k = spent s := by
  have hasks := Moment.asks_of_ends hm
  cases hs with
  | opens => cases hasks
  | idles _ hq _ => rw [Moment.asks?, hq] at hasks; cases hasks
  | serves _ _ _ he => rw [he] at hm; cases hm
  | loses _ hq _ _ =>
    rw [Moment.asks?, hq] at hasks
    cases hasks
    rfl
  | closes => cases hasks; rfl
  | releases => cases hm

theorem Run.opens_of_held (hr : Run h ms (held s)) (hne : h ≠ held s) : ∃ m ∈ ms, m.opens? = some s := by
  generalize hk : held s = k at hr
  induction hr with
  | nil => exact absurd hk.symm hne
  | @cons h k k' m ms hs _ ih =>
    by_cases hheld : k = held s
    · refine ⟨m, List.mem_cons_self, ?_⟩
      cases hs with
      | opens => cases hheld; rfl
      | serves => exact absurd hheld hne
      | idles | loses | closes | releases => cases hheld
    · obtain ⟨m', hm', hopens⟩ := ih hheld hk
      exact ⟨m', List.mem_cons_of_mem _ hm', hopens⟩

/-- What is asked of a session that was not held at first comes after it was handed out. -/
theorem Run.opens_of_asks {pre post : List Moment} (hr : Run h (pre ++ m :: post) k) (hne : h ≠ held s)
    (hm : m.asks? = some s) : ∃ o ∈ pre, o.opens? = some s := by
  obtain ⟨j, hpre, hrest⟩ := hr.split
  cases hrest with
  | cons hs _ =>
    rw [hs.held_of_asks hm] at hpre
    exact hpre.opens_of_held hne

/-- **Silence.** A session that is of no more use is asked for nothing, unless it is handed out again. -/
theorem Run.silent {pre mid post : List Moment} {m' : Moment} (hr : Run h (pre ++ m :: (mid ++ m' :: post)) k)
    (hends : m.ends? = some s) (hasks : m'.asks? = some s) : ∃ o ∈ mid, o.opens? = some s := by
  obtain ⟨j, -, hrest⟩ := hr.split
  cases hrest with
  | cons hs hrest =>
    rw [hs.spent_of_ends hends] at hrest
    exact hrest.opens_of_asks nofun hasks

end Hand
end OracleIntake
