import OracleIntake.Proofs.Shared.Delivery
import OracleIntake.Proofs.Shared.Serial

/-!
# Interleaved calls

What the holders of a shared connection get from taking turns. Their calls never interleave; a call that is
given up in its connect cycle leaves what a connect leaves that is given up there; and statements that find no
trouble share one session.

* `run_of_cancelled`: a call that is given up in its connect cycle.
* `length_targets_statements`: the sessions that statements ask for.
* `turns_serial`: the calls of the holders, in whatever way their steps are mixed.
-/
namespace OracleIntake
open Dialogue Moments

/-! ## Calls that are given up in their cycle -/

namespace SharedCall

/-- The deadline of the connect cycle that the call begins with, if it begins with connecting. -/
def cycle? : SharedCall → Option (Option Duration)
  | connect | execute .. | fetchAll .. | fetchOne .. => some none
  | check deadline => some deadline
  | close | look => none

variable {call : SharedCall} {deadline : Option Duration}

theorem dialogue_eq_andThen (h : call.cycle? = some deadline) (c : Connection) :
    ∃ next, call.dialogue c = (c.connectBy deadline).andThen next := by
  cases call with
  | connect =>
    cases h
    exact ⟨.done, (andThen_done _).symm⟩
  | close | look => cases h
  | execute sql params =>
    cases h
    exact ⟨_, SharedConnection.ensuringOpen_eq_andThen _ c⟩
  | fetchAll sql params =>
    cases h
    exact ⟨_, SharedConnection.ensuringOpen_eq_andThen _ c⟩
  | fetchOne sql params =>
    cases h
    have hfetch : (fetchOne sql params).dialogue c =
        (c.connect.andThen (SharedConnection.onceConnected (Connection.query sql params))).andThen
          fun c rows => .done c (rows.map List.head?) := by
      rw [← SharedConnection.ensuringOpen_eq_andThen]
      rfl
    exact ⟨_, hfetch.trans (andThen_assoc ..)⟩
  | check =>
    cases h
    exact ⟨_, rfl⟩

end SharedCall

/-- A connect cycle that is given up leaves a connection that has failed by being cancelled. -/
theorem Connection.cancelled_of_none {c : Connection} {deadline : Option Duration} {σ : Type} {w : World σ}
    {st : σ} (hnone : ((c.connectBy deadline).run w st).result = none) :
    ∃ p, ((c.connectBy deadline).run w st).connection =
      { settings := c.settings, lifecycle := .failed, progress := p, lastFault := some (.cancelled p) } := by
  cases ho : c.isOpen with
  | true =>
    rw [connectBy_of_open deadline ho] at hnone
    cases hnone
  | false =>
    obtain ⟨later, -, hran⟩ := ensures_run (connectBy_ensures_of_left deadline ho) w st
    rw [hnone] at hran
    obtain ⟨ms, c', q, -, hc, hwaits⟩ := hran.waits_of_none
    obtain ⟨fs, n, rfl⟩ := hwaits.midCycle
    rw [hc, Settings.abandoned_midCycle]
    exact ⟨_, rfl⟩

/-- A call that is given up in its connect cycle does what connecting does that is given up there. -/
theorem run_of_cancelled {call : SharedCall} {deadline : Option Duration} (h : call.cycle? = some deadline)
    {c : Connection} {σ : Type} {w : World σ} {st : σ}
    (hnone : ((c.connectBy deadline).run w st).result = none) :
    (call.dialogue c).run w st = { (c.connectBy deadline).run w st with result := none } := by
  obtain ⟨next, hnext⟩ := SharedCall.dialogue_eq_andThen h c
  rw [hnext, run_andThen, Run.follow_of_none hnone]

/-! ## Statements that find no trouble -/

namespace SharedCall

def IsStatement : SharedCall → Prop
  | execute .. | fetchAll .. | fetchOne .. => True
  | connect | close | check _ | look => False

/-- The fault that a call comes to, if it comes to one. -/
def fault? : (call : SharedCall) → call.Result → Option Fault
  | connect, .error f | execute .., .error f | fetchAll .., .error f | fetchOne .., .error f => some f
  | connect, .ok _ | execute .., .ok _ | fetchAll .., .ok _ | fetchOne .., .ok _ => none
  | check _, report => report.fault
  | close, _ | look, _ => none

end SharedCall

/-- The call was not given up, and no session was lost in it. -/
def FinishedCall.Smooth (f : FinishedCall) : Prop :=
  ∃ r, f.result = some r ∧ ∀ fault, f.call.fault? r = some fault → fault.isFatal = false

/-- Every session that was asked for was handed out. -/
def Log.AllOpened (log : List Event) : Prop := (Log.sessions log).length = (Log.targets log).length

instance (log : List Event) : Decidable (Log.AllOpened log) :=
  inferInstanceAs (Decidable ((Log.sessions log).length = (Log.targets log).length))

namespace SharedConnection
variable {σ α : Type} {w : World σ} {st : σ} {c : Connection} {sql : String}

/-- A statement in which nothing goes wrong leaves the connection open, with the session that was there or the
one session that it asked for. -/
theorem inquire_opens {i : Inquiry α} {r : Except Fault α}
    (hr : ((inquire c sql i).run w st).result = some r)
    (hfatal : ∀ fault, r = .error fault → fault.isFatal = false)
    (hopened : Log.AllOpened ((inquire c sql i).run w st).log) :
    ((inquire c sql i).run w st).connection.isOpen = true ∧
      (Log.targets ((inquire c sql i).run w st).log).length = if c.isOpen then 0 else 1 := by
  have hdelivered := delivered_inquire hr
  generalize (inquire c sql i).run w st = ran at hdelivered hopened ⊢
  rcases hdelivered.outcome with ⟨hok, hopen⟩ | ⟨f, hf⟩
  · obtain ⟨session, a, es, -, -, hlog, -, hsettles⟩ := hdelivered.sent hok
    obtain ⟨-, -, hessessions⟩ := hsettles.views
    constructor
    · generalize cast (i.answer_eq session) a = answer at hsettles
      generalize ran.connection = c' at hsettles ⊢
      cases hsettles with
      | value | failed => exact hopen
      | lost => cases hfatal _ rfl
    · cases ho : c.isOpen with
      | true => rw [(hdelivered.reuses ho).2.2.2]; rfl
      | false =>
        have hsessions : Log.sessions ran.log = Log.sessions (c.connect.run w st).log := by
          rw [hlog, Log.sessions_append]
          exact (congrArg _ hessessions).trans (List.append_nil _)
        rcases (Connection.connected_of_result hok).outcome with ⟨-, -, hone⟩ | ⟨⟨f, hf⟩, -⟩
        · rw [← hopened, hsessions, hone ho]
          rfl
        · rw [hok] at hf
          cases hf
  · -- a cycle that fails has asked for a session and was given none
    exfalso
    obtain ⟨-, hran, -⟩ := hdelivered.unsent _ hf
    have ho : c.isOpen = false := by
      cases ho : c.isOpen with
      | false => rfl
      | true =>
        rw [(hdelivered.reuses ho).1] at hf
        cases hf
    have hpos := (hdelivered.connects ho).1
    rw [hran] at hopened
    rcases (Connection.connected_of_result hf).outcome with ⟨hok, -⟩ | ⟨-, hnone⟩
    · rw [hf] at hok
      cases hok
    · rw [← hopened, hnone] at hpos
      cases hpos

end SharedConnection

theorem statement_opens {σ : Type} {w : World σ} {st : σ} {c : Connection} {call : SharedCall}
    (hcall : call.IsStatement) {h : Nat}
    (hsmooth : (FinishedCall.mk h call ((call.dialogue c).run w st).result).Smooth)
    (hopened : Log.AllOpened ((call.dialogue c).run w st).log) :
    ((call.dialogue c).run w st).connection.isOpen = true ∧
      (Log.targets ((call.dialogue c).run w st).log).length = if c.isOpen then 0 else 1 := by
  obtain ⟨r, hr, hfatal⟩ := hsmooth
  cases call with
  | connect | close | check | look => cases hcall
  | execute sql params =>
    refine SharedConnection.inquire_opens (i := .execute sql params) hr (fun fault hf => ?_) hopened
    subst hf
    exact hfatal fault rfl
  | fetchAll sql params =>
    refine SharedConnection.inquire_opens (i := .query sql params) hr (fun fault hf => ?_) hopened
    subst hf
    exact hfatal fault rfl
  | fetchOne sql params =>
    have hrun : (SharedConnection.fetchOne sql params c).run w st =
        ((SharedConnection.fetchAll sql params c).run w st).map (Except.map List.head?) := run_andThen_done ..
    change ((SharedConnection.fetchOne sql params c).run w st).result = some r at hr
    change Log.AllOpened ((SharedConnection.fetchOne sql params c).run w st).log at hopened
    change ((SharedConnection.fetchOne sql params c).run w st).connection.isOpen = true ∧
      (Log.targets ((SharedConnection.fetchOne sql params c).run w st).log).length = _
    rw [hrun] at hr hopened ⊢
    obtain ⟨rows, hrows, hrr⟩ := Option.map_eq_some_iff.1 hr
    refine SharedConnection.inquire_opens (i := .query sql params) hrows (fun fault hf => ?_) hopened
    subst hf
    subst hrr
    exact hfatal fault rfl

namespace Turns
variable {σ : Type} {w : World σ}

/-- What the world sees of the blocks. -/
def eventsOf (log : List (Nat × Event)) : List Event := log.map Prod.snd

theorem eventsOf_inBlocks_cons (h : Nat) (es : List Event) (bs : List (Nat × List Event)) :
    eventsOf (inBlocks ((h, es) :: bs)) = es ++ eventsOf (inBlocks bs) := by
  simp [eventsOf, inBlocks, logged, List.map_flatMap, Function.comp_def]

/-- No more sessions are handed out in some calls than are asked for. -/
theorem length_sessions_blocks_le (w : World σ) (x : Course σ) (order : List (Nat × SharedCall)) :
    (Log.sessions (eventsOf (inBlocks (blocks w x order)))).length ≤
      (Log.targets (eventsOf (inBlocks (blocks w x order)))).length := by
  induction order generalizing x with
  | nil => exact Nat.le_refl 0
  | cons p order ih =>
    obtain ⟨h, call⟩ := p
    have hcall := length_sessions_le ((call.dialogue x.connection).moments w x.world)
    rw [← log_eq_events] at hcall
    rw [blocks, eventsOf_inBlocks_cons, Log.sessions_append, Log.targets_append, List.length_append,
      List.length_append]
    exact Nat.add_le_add hcall (ih _)

/-- **Statements in turn.** Statements in which nothing goes wrong ask for one session in all, or for none if
the connection was open at first. -/
theorem length_targets_statements (x : Course σ) (order : List (Nat × SharedCall))
    (hcalls : ∀ p ∈ order, p.2.IsStatement) (hsmooth : ∀ f ∈ (inTurn w x order).2, f.Smooth)
    (hopened : Log.AllOpened (eventsOf (inBlocks (blocks w x order)))) :
    (Log.targets (eventsOf (inBlocks (blocks w x order)))).length =
      if x.connection.isOpen ∨ order = [] then 0 else 1 := by
  induction order generalizing x with
  | nil => simp [blocks, inBlocks, eventsOf, Log.targets]
  | cons p order ih =>
    obtain ⟨h, call⟩ := p
    -- the sessions are short in no block, so they are short in none of them
    have hle := length_sessions_le ((call.dialogue x.connection).moments w x.world)
    rw [← log_eq_events] at hle
    have hle' := length_sessions_blocks_le w (x.hold w fun c => call.dialogue c).2 order
    rw [Log.AllOpened, blocks, eventsOf_inBlocks_cons, Log.sessions_append, Log.targets_append,
      List.length_append, List.length_append] at hopened
    have hfirst : Log.AllOpened ((call.dialogue x.connection).run w x.world).log := by
      rw [Log.AllOpened]
      omega
    have hothers :
        Log.AllOpened (eventsOf (inBlocks (blocks w (x.hold w fun c => call.dialogue c).2 order))) := by
      rw [Log.AllOpened]
      omega
    rw [inTurn_cons] at hsmooth
    obtain ⟨hopen, hone⟩ := statement_opens (hcalls _ List.mem_cons_self) (hsmooth _ List.mem_cons_self) hfirst
    have hrest := ih (x.hold w fun c => call.dialogue c).2
      (fun p hp => hcalls p (List.mem_cons_of_mem _ hp)) (fun f hf => hsmooth f (List.mem_cons_of_mem _ hf))
      hothers
    have hopen' : (x.hold w fun c => call.dialogue c).2.connection.isOpen = true := hopen
    rw [hopen'] at hrest
    rw [blocks, eventsOf_inBlocks_cons, Log.targets_append, List.length_append, hone, hrest]
    simp

end Turns
/-- **Turns.** However the steps of the holders of a shared connection are mixed, from a start at which no call
has begun: what happens is what happens when the calls that got the lock are made in turn. A call that is given
up in its connect cycle contributes what connecting does that is given up there. Statements in which nothing
goes wrong ask for one session in all, if none was open at first. -/
theorem turns_serial {σ : Type} {w : World σ} {x y : Turns σ} (hx : x.Fresh) (h : Turns.Steps w x y) :
    (∃ order, Turns.Serial w x y order) ∧
    (∀ (call : SharedCall) (deadline : Option Duration) (c : Connection) (st : σ),
      call.cycle? = some deadline → ((c.connectBy deadline).run w st).result = none →
        (call.dialogue c).run w st = { (c.connectBy deadline).run w st with result := none } ∧
          ∃ p, ((c.connectBy deadline).run w st).connection =
            { settings := c.settings, lifecycle := .failed, progress := p, lastFault := some (.cancelled p) }) ∧
    ((∀ h, ∀ call ∈ (x.holders h).waiting, call.IsStatement) → y.lock = none → y.finished ≠ [] →
      (∀ f ∈ y.finished, f.Smooth) → Log.AllOpened (Turns.eventsOf y.log) →
        (Log.targets (Turns.eventsOf y.log)).length = if x.connection.isOpen then 0 else 1) := by
  obtain ⟨order, hs⟩ := h.serial hx
  refine ⟨⟨order, hs⟩, fun call deadline c st hcycle hnone =>
    ⟨run_of_cancelled hcycle hnone, Connection.cancelled_of_none hnone⟩, ?_⟩
  intro hcalls hlock hfinished hsmooth hopened
  rw [hs.finished] at hfinished hsmooth
  rw [(hs.free hlock).2] at hopened ⊢
  have hstatements : ∀ p ∈ order, p.2.IsStatement := fun p hp => by
    refine hcalls p.1 p.2 ((hs.programOrder p.1).subset ?_)
    simp only [List.mem_append]
    exact .inl (.inl (List.mem_filterMap.2 ⟨p, hp, if_pos rfl⟩))
  have hne : order ≠ [] := by
    rintro rfl
    exact hfinished rfl
  rw [Turns.length_targets_statements x.course order hstatements hsmooth hopened]
  simp [hne, Turns.course]

/-- While the statement of one holder is in its connect cycle, another holder gives up a query that waits, and
then runs the next. -/
theorem turns_serial_twoHolders :
    let x : Turns Script := {
      connection := { settings := .guarded }, world := {}
      holders := fun h =>
        if h = 0 then { waiting := [.execute "delete from stage" .none] }
        else if h = 1 then
          { waiting := [.fetchAll "select 1 from dual" .none, .fetchOne "select 2 from dual" .none] }
        else { waiting := [] } }
    x.Fresh ∧ ∃ y, Turns.Steps Script.world x y ∧ (∃ order, Turns.Serial Script.world x y order) ∧
      y.finished.map (fun f => (f.holder, f.call)) =
        [(0, .execute "delete from stage" .none), (1, .fetchOne "select 2 from dual" .none)] ∧
      (Log.targets (Turns.eventsOf y.log)).length = 1 := by
  intro x
  have hx : x.Fresh := ⟨rfl, fun h => by rcases h with _ | _ | h <;> rfl, rfl, rfl⟩
  have hbegun : Turns.Steps Script.world x _ := .tail (.refl x) (.begins (h := 0) rfl rfl)
  have hleft : Turns.Steps Script.world x _ := .tail hbegun (.leaves (h := 1) rfl)
  have hsession : (SharedConnection.execute "delete from stage" .none x.connection).step Script.world x.world =
      (.rest (Connection.execute "delete from stage" .none
        (x.connection.begun.attempted.established 0 Settings.guarded.target)),
        [.asked (.openSession Settings.guarded.target), .opened 0], { nextSession := 1 }) := by
    rw [SharedConnection.execute, SharedConnection.ensuringOpen, if_neg (by decide), Connection.connect,
      if_neg (by decide), Connection.cycle]
    rfl
  have hopened : Turns.Steps Script.world x _ := .tail hleft (.goesOn (h := 0) rfl hsession)
  have hexecuted : Turns.Steps Script.world x _ := .tail hopened (.goesOn (h := 0) rfl rfl)
  have hended : Turns.Steps Script.world x _ := .tail hexecuted (.ends (h := 0) rfl rfl)
  have hbegun' : Turns.Steps Script.world x _ := .tail hended (.begins (h := 1) rfl rfl)
  have hqueried : Turns.Steps Script.world x _ := .tail hbegun' (.goesOn (h := 1) rfl rfl)
  have hended' : Turns.Steps Script.world x _ := .tail hqueried (.ends (h := 1) rfl rfl)
  obtain ⟨hserial, -, hopens⟩ := turns_serial hx hended'
  refine ⟨hx, _, hended', hserial, rfl, ?_⟩
  refine (hopens ?_ rfl (List.cons_ne_nil _ _) ?_ (by decide +kernel)).trans rfl
  · intro h call hcall
    rcases h with _ | _ | h
    · cases List.mem_singleton.1 hcall
      trivial
    · rcases List.mem_cons.1 hcall with rfl | hcall
      · trivial
      · cases List.mem_singleton.1 hcall
        trivial
    · cases hcall
  · intro f hf
    rcases List.mem_cons.1 hf with rfl | hf
    · exact ⟨_, rfl, fun fault hfault => by cases hfault⟩
    · cases List.mem_singleton.1 hf
      exact ⟨_, rfl, fun fault hfault => by cases hfault⟩

end OracleIntake
