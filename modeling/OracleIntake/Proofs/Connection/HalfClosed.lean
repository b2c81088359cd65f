import OracleIntake.Proofs.Connection.Endpoint
import OracleIntake.Proofs.Secrecy.Unseen
import OracleIntake.Proofs.Shared.Delivery

/-!
# Half-closed connections

A caller may give up while a session is being closed. The session is let go, but the connection still counts as open
and still records the session's endpoint, and so it stays until the driver is asked for something again or a call
disconnects. Wherever else callers give up, the open state, the session and its endpoint go together.

* `Upholds.operation`: what the parts of a call uphold, the calls of the holders uphold, too.
* `Standing`: what holds of a connection after any operations; `Operated.standing` says that it does.
* `operated_halfClosed`: a connection is half closed where a caller gave up while its session was closed, and nowhere
  else.
-/
namespace OracleIntake
open Dialogue Moments

/-! ## Calls of the holders -/

namespace Upholds
variable {Q : List Moment → Connection → Bool → Prop} {c : Connection}

/-- **One call of a holder.** It upholds what its parts uphold. -/
theorem shared (h : Upholds Q) (hc : Q [] c true) (call : SharedCall) :
    (call.dialogue c).Ensures (fun ms c r => Q ms c r.isSome) [] := by
  have hstatement : ∀ {α : Type} (sql : String) (i : Inquiry α),
      (SharedConnection.inquire c sql i).Ensures (fun ms c r => Q ms c r.isSome) [] := by
    intro α sql i
    rw [SharedConnection.inquire, SharedConnection.ensuringOpen_eq_andThen]
    refine (h.connects none hc).andThen (fun _ _ h => h) fun ms c' connected hc' => ?_
    cases connected with
    | error fault => exact hc'
    | ok _ => exact h.inquires sql i hc'
  cases call with
  | connect => exact h.connects none hc
  | close => exact h.disconnects hc
  | execute sql params => exact hstatement sql (.execute sql params)
  | fetchAll sql params => exact hstatement sql (.query sql params)
  | fetchOne sql params => exact (hstatement sql (.query sql params)).andThen (fun _ _ h => h) fun _ _ _ h => h
  | check deadline => exact h.check hc deadline
  | look => exact hc

theorem operation (h : Upholds Q) (hc : Q [] c true) (op : Operation) :
    (op.dialogue c).Ensures (fun ms c r => Q ms c r.isSome) [] := by
  cases op with
  | own call => exact h.call hc call
  | shared call => exact h.shared hc call

end Upholds

/-- A connection with these settings was led to where it is by operations with these moments, each in a world of its
own. Their callers may have given up anywhere. -/
inductive Operated (s : Settings) : List Moment → Connection → Prop where
  | fresh : Operated s [] { settings := s }
  | operation {ms : List Moment} {c : Connection} {σ : Type} (w : World σ) (st : σ) (op : Operation) :
    Operated s ms c → Operated s (ms ++ (op.dialogue c).moments w st) ((op.dialogue c).run w st).connection

namespace Moments
variable {ms : List Moment}

/-- The caller gave up while the session was closed, and nothing has happened since. -/
def CutAtClose (ms : List Moment) (session : SessionId) : Prop :=
  ∃ c, ms.getLast? = some (.asked c (.close session) .givenUp)

/-- While its session is closed, a connection counts as open and does not hold the session. -/
def ClosesOpened (ms : List Moment) : Prop :=
  ∀ c session e, .asked c (.close session) e ∈ ms → c.lifecycle = .opened ∧ c.session = none

theorem ClosesOpened.snoc (h : ClosesOpened ms) {m : Moment}
    (hm : ∀ c session e, m = .asked c (.close session) e → c.lifecycle = .opened ∧ c.session = none) :
    ClosesOpened (ms ++ [m]) := by
  intro c session e hmem
  rcases List.mem_append.1 hmem with hmem | hmem
  · exact h c session e hmem
  · exact hm c session e (List.mem_singleton.1 hmem).symm

theorem ClosesOpened.released (h : ClosesOpened ms) (session : SessionId) : ClosesOpened (ms ++ [.released session]) :=
  h.snoc fun _ _ _ he => by cases he

end Moments

/-! ## How a connection stands -/

namespace Connection
variable {c : Connection} {ms before past : List Moment}

/-- What holds of a connection after these moments, wherever callers gave up. -/
structure Standing (ms : List Moment) (c : Connection) : Prop where
  atRest : c.lifecycle ≠ .connecting
  session : c.session.isSome → c.lifecycle = .opened
  target : c.target.isSome → c.lifecycle = .opened
  /-- A connection that counts as open records the endpoint of the session that was handed out last. It holds this
  session, unless its caller gave up while the session was closed. -/
  opened : c.lifecycle = .opened → ∃ session target, c.target = some target ∧ latest ms = some (session, target) ∧
    (c.session = some session ∨ c.session = none ∧ CutAtClose ms session)
  closes : ClosesOpened ms
  balanced : Log.Balanced (events ms)
  alive : Log.alive (events ms) = c.session.toList

theorem standing_fresh (s : Settings) : Standing [] { settings := s } where
  atRest ho := by cases ho
  session hs := by cases hs
  target ht := by cases ht
  opened ho := by cases ho
  closes _ _ _ hmem := absurd hmem List.not_mem_nil
  balanced := Log.balanced_nil
  alive := rfl

namespace Standing
variable {session : SessionId}

theorem session_eq_none (h : Standing ms c) (ho : c.isOpen = false) : c.session = none := by
  cases hs : c.session with
  | none => rfl
  | some session =>
    have hopen : c.isOpen = true := by simp [isOpen, h.session (by simp [hs]), hs]
    rw [ho] at hopen
    cases hopen

theorem latest_of_session (h : Standing ms c) (hs : c.session = some session) :
    ∃ target, c.target = some target ∧ latest ms = some (session, target) := by
  obtain ⟨session', target, ht, hlatest, hsession | ⟨hnone, -⟩⟩ := h.opened (h.session (by simp [hs]))
  · cases hs.symm.trans hsession
    exact ⟨target, ht, hlatest⟩
  · cases hs.symm.trans hnone

/-- A session that is held is asked for something but to close. -/
theorem asked (h : Standing ms c) (hs : c.session = some session) {q : Request} (hq : q.session? = some session)
    (howned : q.owned = []) (e : Waited q.Answer) : Standing (ms ++ [.asked c q e]) c := by
  have hevents : events (ms ++ [.asked c q e]) = events ms ++ [.asked q] := by
    rw [events_append, ← Moment.events_asked (Moment.opens_of_asks hq) (.inl howned)]
    exact congrArg _ (List.append_nil _)
  obtain ⟨target, ht, hlatest⟩ := h.latest_of_session hs
  refine ⟨h.atRest, h.session, h.target, fun _ => ⟨session, target, ht, ?_, .inl hs⟩, h.closes.snoc fun _ _ _ he => ?_,
    ?_, ?_⟩
  · rwa [latest_snoc_none (Moment.handedOut?_of_session hq e)]
  · cases he
    cases howned
  · rw [hevents]
    exact h.balanced.asked q
  · rw [hevents, Log.alive_asked, h.alive]

/-- A session that is held is let go, and the connection does not count as open any more. -/
theorem released (h : Standing ms c) (hs : c.session = some session) {c' : Connection}
    (hrest : c'.lifecycle ≠ .connecting ∧ c'.lifecycle ≠ .opened) (hsession : c'.session = none)
    (htarget : c'.target = none) : Standing (ms ++ [.released session]) c' := by
  have hevents : events (ms ++ [.released session]) = events ms ++ [.released session] := events_append ..
  have halive : Log.alive (events ms) = [session] := by rw [h.alive, hs]; rfl
  refine ⟨hrest.1, ?_, ?_, fun ho => absurd ho hrest.2, h.closes.released session, ?_, ?_⟩
  · rw [hsession]; nofun
  · rw [htarget]; nofun
  · rw [hevents]
    exact h.balanced.released halive
  · rw [hevents, Log.alive_released, halive, hsession]
    simp

theorem cycleRan (h : Standing before c) (hs : c.session = none) {s : Settings} {timed : Bool} {c' : Connection}
    {r : Option (Except Fault Unit)} (hran : s.CycleRan timed ms c' r) : Standing (before ++ ms) c' := by
  have hsound := hran.sound
  have halive : Log.alive (events before) = [] := by rw [h.alive, hs]; rfl
  obtain ⟨hbalanced, hheld⟩ := hran.run.balanced h.balanced halive
  rw [← events_append] at hbalanced hheld
  refine ⟨hsound.atRest, hsound.session.2, hsound.target.2, fun ho => ?_, fun c₁ session e hmem => ?_, hbalanced, ?_⟩
  · obtain ⟨session, target, hsession, htarget, hlatest⟩ := atLatest_cycleRan hran (hsound.isOpen.2 ho)
    exact ⟨session, target, htarget, hlatest, .inl hsession⟩
  · rcases List.mem_append.1 hmem with hmem | hmem
    · exact h.closes c₁ session e hmem
    · cases hran.asks_none hmem
  · rw [hheld, Hand.sessions_of]

theorem closed_balanced (h : Standing ms c) (hs : c.session = some session) :
    Log.Balanced (events ms ++ [.asked (.close session), .released session]) ∧
      Log.alive (events ms ++ [.asked (.close session), .released session]) = [] := by
  have halive : Log.alive (events ms ++ [.asked (.close session)]) = [session] := by
    rw [Log.alive_asked, h.alive, hs]
    rfl
  rw [List.append_cons]
  refine ⟨(h.balanced.asked _).released halive, ?_⟩
  rw [Log.alive_released, halive]
  simp

/-- The connection gives its session out of its hands before it closes it. -/
theorem closing (h : Standing ms c) (hs : c.session = some session) (e : Waited (Request.close session).Answer) :
    ClosesOpened (ms ++ [.asked { c with session := none } (.close session) e]) :=
  h.closes.snoc fun _ _ _ he => by
    cases he
    exact ⟨h.session (by simp [hs]), rfl⟩

theorem cut (h : Standing ms c) (hs : c.session = some session) :
    Standing (ms ++ [.asked { c with session := none } (.close session) .givenUp]) { c with session := none } := by
  have hevents : events (ms ++ [.asked { c with session := none } (.close session) .givenUp]) =
      events ms ++ [.asked (.close session), .released session] := events_append ..
  obtain ⟨hbalanced, halive⟩ := h.closed_balanced hs
  obtain ⟨target, ht, hlatest⟩ := h.latest_of_session hs
  refine ⟨h.atRest, fun hsome => (by cases hsome), h.target,
    fun _ => ⟨session, target, ht, ?_, .inr ⟨rfl, _, List.getLast?_concat⟩⟩, h.closing hs _, ?_, ?_⟩
  · rwa [latest_snoc_none (Moment.handedOut?_of_session rfl _)]
  · rwa [hevents]
  · rwa [hevents]

theorem closed (h : Standing ms c) (hs : c.session = some session) (a : (Request.close session).Answer) :
    Standing (ms ++ [.asked { c with session := none } (.close session) (.answered a), .released session])
      c.closed := by
  have hevents : events (ms ++ [.asked { c with session := none } (.close session) (.answered a), .released session]) =
      events ms ++ [.asked (.close session), .released session] := events_append ..
  obtain ⟨hbalanced, halive⟩ := h.closed_balanced hs
  refine ⟨nofun, nofun, nofun, nofun, ?_, ?_, ?_⟩
  · rw [List.append_cons]
    exact (h.closing hs _).released session
  · rwa [hevents]
  · rwa [hevents]

theorem closed_of_none (h : Standing ms c) (hs : c.session = none) : Standing ms c.closed where
  atRest := nofun
  session := nofun
  target := nofun
  opened := nofun
  closes := h.closes
  balanced := h.balanced
  alive := by rw [h.alive, hs]; rfl

end Standing

theorem connectBy_standing (h : Standing before c) (deadline : Option Duration) :
    (c.connectBy deadline).Ensures (fun ms c _ => Standing (before ++ ms) c) [] := by
  cases ho : c.isOpen with
  | true =>
    rw [connectBy_of_open deadline ho]
    simpa [Ensures] using h
  | false =>
    have hs := h.session_eq_none ho
    exact (connectBy_ensures deadline ho hs).mono fun _ _ _ hran => h.cycleRan hs hran

theorem inquire_standing {α : Type} (h : Standing (before ++ past) c) (sql : String) (i : Inquiry α) :
    (c.inquire sql i).Ensures (fun ms c _ => Standing (before ++ ms) c) past := by
  refine withSession_ensures h fun session ho hs => ?_
  have hasked : ∀ e, Standing (before ++ (past ++ [.asked c (i.request session) e])) c := fun e => by
    rw [← List.append_assoc]
    exact h.asked hs (i.session_eq session) (i.owned_eq session) e
  refine ⟨?_, fun a => settle_ensures (fun _ _ => hasked _) fun _ f _ _ => ?_⟩
  · rw [abandoned_of_isOpen (by simp [isOpen, ho, hs])]
    exact hasked _
  · rw [hs, ← List.append_assoc]
    exact (hasked _).released hs (by simp [broken]) rfl rfl

theorem disconnect_standing (h : Standing (before ++ past) c) :
    c.disconnect.Ensures (fun ms c _ => Standing (before ++ ms) c) past := by
  unfold disconnect
  split
  · next session hs =>
    refine ⟨?_, fun a => ?_⟩
    · have hopened : ({ c with session := none } : Connection).abandoned = { c with session := none } := by
        simp [abandoned, h.session (by simp [hs])]
      have hcut := h.cut hs
      rw [List.append_assoc] at hcut
      rw [hopened]
      exact hcut
    · have hclosed := h.closed hs a
      rw [List.append_assoc, List.append_cons past] at hclosed
      exact hclosed
  · next hs => exact h.closed_of_none hs

theorem upholds_standing (before : List Moment) : Upholds fun ms c _ => Standing (before ++ ms) c where
  connects deadline h := connectBy_standing (by simpa using h) deadline
  inquires sql i h := inquire_standing h sql i
  disconnects h := disconnect_standing h

end Connection

theorem Operated.standing {s : Settings} {past : List Moment} {c : Connection} (h : Operated s past c) :
    c.Standing past := by
  induction h with
  | fresh => exact Connection.standing_fresh s
  | operation w st op _ ih =>
    exact ensures_run ((Connection.upholds_standing _).operation (by simpa using ih) op) w st

/-! ## Half-closed connections -/

namespace Connection
variable {c : Connection} {ms : List Moment} {session : SessionId}

/-- That a connection counts as open, that it holds a session and that it records an endpoint go together. -/
structure Tied (c : Connection) : Prop where
  session : c.lifecycle = .opened ↔ c.session.isSome
  target : c.lifecycle = .opened ↔ c.target.isSome

/-- What the connection tells of itself has an open state or an active endpoint in it. -/
def ShowsOpen (c : Connection) : Prop :=
  c.status.lifecycle = .opened ∨ c.status.transport.isSome ∨ c.status.port.isSome ∨
    c.info.lifecycle = .opened ∨ c.info.activeTransport.isSome ∨ c.info.activePort.isSome

/-- The caller gave up while the session was closed. The connection does not hold the session any more, which has been
let go, but it counts as open and records the endpoint. -/
structure HalfClosed (ms : List Moment) (c : Connection) (session : SessionId) : Prop where
  cut : CutAtClose ms session
  lifecycle : c.lifecycle = .opened
  noSession : c.session = none
  /-- The session was the one that was handed out last. -/
  target : ∃ target, c.target = some target ∧ latest ms = some (session, target)
  alive : Log.alive (events ms) = []

theorem showsOpen_iff : c.ShowsOpen ↔ c.lifecycle = .opened ∨ c.target.isSome := by
  simp only [ShowsOpen, status, info, Option.isSome_map]
  cases c.target.isSome <;> simp

theorem Tied.showsOpen_iff (h : c.Tied) : c.ShowsOpen ↔ c.isOpen = true := by
  rw [Connection.showsOpen_iff, ← h.target, or_self, isOpen, Bool.and_eq_true, beq_iff_eq, ← h.session, and_self]

theorem HalfClosed.isOpen_eq (h : HalfClosed ms c session) : c.isOpen = false := by
  simp [isOpen, h.noSession]

theorem HalfClosed.showsOpen (h : HalfClosed ms c session) : c.ShowsOpen := .inl h.lifecycle

/-- There is no third way to stand. -/
theorem Standing.tied_or_halfClosed (h : Standing ms c) : c.Tied ∨ ∃ session, HalfClosed ms c session := by
  by_cases ho : c.lifecycle = .opened
  · obtain ⟨session, target, htarget, hlatest, hs | ⟨hs, hcut⟩⟩ := h.opened ho
    · exact .inl ⟨by simp [ho, hs], by simp [ho, htarget]⟩
    · exact .inr ⟨session, hcut, ho, hs, ⟨target, htarget, hlatest⟩, by rw [h.alive, hs]; rfl⟩
  · exact .inl ⟨iff_of_false ho (mt h.session ho), iff_of_false ho (mt h.target ho)⟩

/-- A connection is half closed by whoever gives up while its session is closed. -/
theorem Standing.halfClosed_of_cut (h : Standing ms c) {c' : Connection}
    (hlast : ms.getLast? = some (.asked c' (.close session) .givenUp)) (hc : c = c'.abandoned) :
    HalfClosed ms c session := by
  obtain ⟨hopened, hnone⟩ := h.closes c' session .givenUp (List.mem_of_getLast? hlast)
  have habandoned : c = c' := by rw [hc, abandoned, hopened]; rfl
  subst habandoned
  obtain ⟨session', target, htarget, hlatest, hs | ⟨-, c'', hcut⟩⟩ := h.opened hopened
  · rw [hnone] at hs
    cases hs
  · rw [hlast] at hcut
    cases hcut
    exact ⟨⟨c, hlast⟩, hopened, hnone, ⟨target, htarget, hlatest⟩, by rw [h.alive, hnone]; rfl⟩

/-- A caller who does not wait for the close gives up there. -/
theorem moments_disconnect_cut {σ : Type} {w : World σ} {st : σ} (hs : c.session = some session)
    (hcut : (w.answer (.close session) none st).1 = .givenUp) :
    c.disconnect.moments w st = [.asked { c with session := none } (.close session) .givenUp] := by
  rw [disconnect, hs]
  dsimp only
  rw [moments]
  rcases ha : w.answer (.close session) none st with ⟨_ | _ | _, st'⟩
  · rw [ha] at hcut
    cases hcut
  · rfl
  · rfl

end Connection

/-- **Half-closed connections.** After any operations, that a connection counts as open, that it holds a session and
that it records an endpoint go together, and then it shows this truly; or the last that has happened is that a caller
gave up while the session was closed. Whoever gives up there, in whatever operation, lets the session go and leaves a
connection that shows an open state and an active endpoint although it has no session. -/
theorem operated_halfClosed {s : Settings} {past : List Moment} {c : Connection} (h : Operated s past c) :
    (c.Tied ∧ (c.ShowsOpen ↔ c.isOpen = true) ∨
      ∃ session, c.HalfClosed past session ∧ c.ShowsOpen ∧ c.isOpen = false) ∧
    ∀ (σ : Type) (w : World σ) (st : σ) (op : Operation) (c' : Connection) (session : SessionId),
      .asked c' (.close session) .givenUp ∈ (op.dialogue c).moments w st →
      ((op.dialogue c).run w st).result = none ∧
      (∃ es, ((op.dialogue c).run w st).log = es ++ [.asked (.close session), .released session]) ∧
      ((op.dialogue c).run w st).connection.HalfClosed (past ++ (op.dialogue c).moments w st) session := by
  refine ⟨?_, fun σ w st op c' session hcut => ?_⟩
  · rcases h.standing.tied_or_halfClosed with htied | ⟨session, hhalf⟩
    · exact .inl ⟨htied, htied.showsOpen_iff⟩
    · exact .inr ⟨session, hhalf, hhalf.showsOpen, hhalf.isOpen_eq⟩
  · obtain ⟨hresult, hconnection, before, hms⟩ :=
      ensures_run ((op.dialogue c).ensures_givenUp patient_nil) w st c' _ hcut
    rw [List.nil_append] at hms
    have hlast : (past ++ (op.dialogue c).moments w st).getLast? = some (.asked c' (.close session) .givenUp) := by
      rw [hms, ← List.append_assoc, List.getLast?_concat]
    refine ⟨hresult, ⟨events before, ?_⟩, (Operated.operation w st op h).standing.halfClosed_of_cut hlast hconnection⟩
    rw [log_eq_events, hms, events_append]
    rfl

/-- The holder of an open connection gives up while it is closed. -/
theorem operated_halfClosed_close :
    let connect := (Operation.shared .connect).dialogue { settings := .guarded }
    let opened := (connect.run Script.world {}).connection
    let close := (Operation.shared .close).dialogue opened
    opened.isOpen = true ∧ (close.run Script.world { closes := [.silent] }).result = none ∧
      (close.run Script.world { closes := [.silent] }).connection.HalfClosed
        (connect.moments Script.world {} ++ close.moments Script.world { closes := [.silent] }) 0 := by
  intro connect opened close
  have hopened : Operated .guarded (connect.moments Script.world {}) opened :=
    .operation Script.world {} (.shared .connect) .fresh
  have hmoments : close.moments Script.world { closes := [.silent] } =
      [.asked { opened with session := none } (.close 0) .givenUp] :=
    Connection.moments_disconnect_cut (by decide +kernel) rfl
  have hcut := (operated_halfClosed hopened).2 Script Script.world { closes := [.silent] } (.shared .close)
    { opened with session := none } 0 (hmoments ▸ List.mem_singleton_self _)
  exact ⟨by decide +kernel, hcut.1, hcut.2.2⟩

/-- A caller gives up while the session of an open connection is closed, and the connection shows an open state and an
active endpoint without a session. -/
theorem disconnect_cut_showsOpen :
    let opened := (Connection.connect { settings := .guarded }).run Script.world {}
    let left := opened.connection.disconnect.run Script.world { closes := [.silent] }
    opened.connection.isOpen = true ∧ left.result = none ∧ left.log = [.asked (.close 0), .released 0] ∧
      left.connection.session = none ∧ left.connection.lifecycle = .opened ∧
      left.connection.target = some Settings.guarded.target ∧ left.connection.info.isOpen = false ∧
      left.connection.info.lifecycle = .opened ∧ left.connection.info.activePort = some 2484 := by
  decide +kernel

end OracleIntake
