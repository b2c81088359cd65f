import OracleIntake.Connection.Turns
import OracleIntake.Proofs.Dialogue.Sequence

/-!
# Calls in turn

However the steps of the holders of a shared connection are mixed, what happens is what happens when the calls
are made one after the other, in the order in which they took the lock.

* `Serial`: the invariant. It has the calls that are over in their order, and tells of the call that has the
  lock that it has done a first part of what it does in that order, and that the rest is what it has still to do.
* `serial_step`: every step keeps it.
* `Steps.serial`: so it holds after any number of steps.
-/
namespace OracleIntake
open Dialogue

namespace Turns
variable {σ : Type} {w : World σ} {x y z : Turns σ}

@[simp] theorem holdersWith_self (x : Turns σ) (h : Nat) (holder : Holder) :
    x.holdersWith h holder h = holder := if_pos rfl

theorem holdersWith_of_ne (x : Turns σ) {h h' : Nat} (hne : h' ≠ h) (holder : Holder) :
    x.holdersWith h holder h' = x.holders h' := if_neg hne

@[simp] theorem logged_nil (h : Nat) : logged h [] = [] := rfl

theorem logged_append (h : Nat) (es fs : List Event) : logged h (es ++ fs) = logged h es ++ logged h fs :=
  List.map_append

/-! ## One call after the other -/

theorem inTurn_cons (w : World σ) (x : Course σ) (h : Nat) (call : SharedCall) (calls : List (Nat × SharedCall)) :
    inTurn w x ((h, call) :: calls) =
      ((inTurn w (x.hold w fun c => call.dialogue c).2 calls).1,
        ⟨h, call, (x.hold w fun c => call.dialogue c).1⟩ ::
          (inTurn w (x.hold w fun c => call.dialogue c).2 calls).2) := rfl

theorem inTurn_snoc (w : World σ) (x : Course σ) (order : List (Nat × SharedCall)) (h : Nat) (call : SharedCall) :
    inTurn w x (order ++ [(h, call)]) =
      (((inTurn w x order).1.hold w fun c => call.dialogue c).2,
        (inTurn w x order).2 ++ [⟨h, call, ((inTurn w x order).1.hold w fun c => call.dialogue c).1⟩]) := by
  induction order generalizing x with
  | nil => rfl
  | cons p order ih =>
    obtain ⟨h', call'⟩ := p
    rw [List.cons_append, inTurn_cons, ih, inTurn_cons]
    rfl

/-- What each of the calls does, one after the other, and whose call it is. -/
def blocks (w : World σ) (x : Course σ) : List (Nat × SharedCall) → List (Nat × List Event)
  | [] => []
  | (h, call) :: calls =>
    (h, ((call.dialogue x.connection).run w x.world).log) :: blocks w (x.hold w fun c => call.dialogue c).2 calls

/-- A log of one block after the other. -/
def inBlocks (bs : List (Nat × List Event)) : List (Nat × Event) := bs.flatMap fun b => logged b.1 b.2

theorem blocks_snoc (w : World σ) (x : Course σ) (order : List (Nat × SharedCall)) (h : Nat) (call : SharedCall) :
    blocks w x (order ++ [(h, call)]) = blocks w x order ++
      [(h, ((call.dialogue (inTurn w x order).1.connection).run w (inTurn w x order).1.world).log)] := by
  induction order generalizing x with
  | nil => rfl
  | cons p order ih =>
    obtain ⟨h', call'⟩ := p
    rw [List.cons_append, blocks, ih]
    rfl

theorem inBlocks_snoc (bs : List (Nat × List Event)) (h : Nat) (es : List Event) :
    inBlocks (bs ++ [(h, es)]) = inBlocks bs ++ logged h es := by
  simp [inBlocks]

/-- The calls of one holder, in their order. -/
def callsOf (h : Nat) (order : List (Nat × SharedCall)) : List SharedCall :=
  order.filterMap fun p => if p.1 = h then some p.2 else none

theorem callsOf_snoc_self (h : Nat) (order : List (Nat × SharedCall)) (call : SharedCall) :
    callsOf h (order ++ [(h, call)]) = callsOf h order ++ [call] := by
  simp [callsOf]

theorem callsOf_snoc_of_ne {h h' : Nat} (hne : h' ≠ h) (order : List (Nat × SharedCall)) (call : SharedCall) :
    callsOf h' (order ++ [(h, call)]) = callsOf h' order := by
  simp [callsOf, Ne.symm hne]

/-! ## The invariant -/

/-- No call has begun yet. -/
structure Fresh (x : Turns σ) : Prop where
  lock : x.lock = none
  current : ∀ h, (x.holders h).current = none
  log : x.log = []
  finished : x.finished = []

/-- The start of the course of calls in turn. -/
def course (x : Turns σ) : Course σ := { connection := x.connection, world := x.world }

/-- What has happened from `x` to `y` is what happens when the calls `order` are made in turn, and after them a
first part of the call that has the lock, if one has it. -/
structure Serial (w : World σ) (x y : Turns σ) (order : List (Nat × SharedCall)) : Prop where
  /-- Only the holder that has the lock has begun a call. -/
  exclusive : ∀ h, (y.holders h).current.isSome = true ↔ y.lock = some h
  /-- The results are those of the calls in turn. -/
  finished : y.finished = (inTurn w x.course order).2
  /-- So is the connection. -/
  connection : y.connection = (inTurn w x.course order).1.connection
  /-- While nobody has the lock, the log has one block for each of the calls. -/
  free : y.lock = none →
    y.world = (inTurn w x.course order).1.world ∧ y.log = inBlocks (blocks w x.course order)
  /-- The call that has the lock has done the first part of its block, and has the rest still to do. -/
  busy : ∀ h turn, (y.holders h).current = some turn → ∃ events,
    y.log = inBlocks (blocks w x.course order) ++ logged h events ∧
      (turn.call.dialogue y.connection).run w (inTurn w x.course order).1.world =
        (turn.rest.run w y.world).after events
  /-- Each holder's calls come in its own order. None is missing but those that were given up while they
  waited. -/
  programOrder : ∀ h,
    (callsOf h order ++ (y.holders h).current.toList.map Turn.call ++ (y.holders h).waiting).Sublist
      (x.holders h).waiting

theorem Fresh.serial (hx : x.Fresh) : Serial w x x [] where
  exclusive h := by simp [hx.lock, hx.current]
  finished := hx.finished
  connection := rfl
  free _ := ⟨rfl, hx.log⟩
  busy h turn ht := by
    rw [hx.current] at ht
    cases ht
  programOrder h := by simp [callsOf, hx.current]

variable {order : List (Nat × SharedCall)} {h : Nat} {call : SharedCall} {calls : List SharedCall}

namespace Serial

theorem current_of_free (hs : Serial w x y order) (hl : y.lock = none) (h : Nat) :
    (y.holders h).current = none := by
  cases hc : (y.holders h).current with
  | none => rfl
  | some turn =>
    have hlock := (hs.exclusive h).1 (by simp [hc])
    rw [hl] at hlock
    cases hlock

theorem lock_of_current (hs : Serial w x y order) {turn : Turn} (hc : y.holders h = ⟨calls, some turn⟩) :
    y.lock = some h :=
  (hs.exclusive h).1 (by simp [hc])

/-- While a holder has the lock, no other one has begun a call. -/
theorem current_of_ne (hs : Serial w x y order) (hl : y.lock = some h) {h' : Nat} (hne : h' ≠ h) :
    (y.holders h').current = none := by
  cases hc : (y.holders h').current with
  | none => rfl
  | some turn =>
    have hlock := (hs.exclusive h').1 (by simp [hc])
    rw [hl] at hlock
    exact absurd (Option.some.inj hlock).symm hne

/-- A call that takes the lock has done nothing of its block yet. -/
theorem begins (hs : Serial w x y order) (hl : y.lock = none) (hh : y.holders h = ⟨call :: calls, none⟩) :
    Serial w x { y with
      lock := some h
      holders := y.holdersWith h ⟨calls, some ⟨call, call.dialogue y.connection⟩⟩ } order where
  exclusive h' := by
    by_cases he : h' = h
    · subst he
      simp
    · simp [holdersWith_of_ne y he, hs.current_of_free hl, Ne.symm he]
  finished := hs.finished
  connection := hs.connection
  free hn := by cases hn
  busy h' turn ht := by
    dsimp only at ht
    by_cases he : h' = h
    · subst he
      rw [holdersWith_self] at ht
      cases ht
      obtain ⟨hworld, hlog⟩ := hs.free hl
      exact ⟨[], by simpa using hlog, by rw [← hworld]; rfl⟩
    · rw [holdersWith_of_ne y he, hs.current_of_free hl] at ht
      cases ht
  programOrder h' := by
    by_cases he : h' = h
    · subst he
      simpa [hh] using hs.programOrder h'
    · simpa [holdersWith_of_ne y he] using hs.programOrder h'

/-- A call that is given up while it waits leaves nothing behind. -/
theorem leaves (hs : Serial w x y order) (hh : y.holders h = ⟨call :: calls, none⟩) :
    Serial w x { y with holders := y.holdersWith h ⟨calls, none⟩ } order where
  exclusive h' := by
    by_cases he : h' = h
    · subst he
      simpa [hh] using hs.exclusive h'
    · simpa [holdersWith_of_ne y he] using hs.exclusive h'
  finished := hs.finished
  connection := hs.connection
  free := hs.free
  busy h' turn ht := by
    dsimp only at ht
    by_cases he : h' = h
    · subst he
      rw [holdersWith_self] at ht
      cases ht
    · rw [holdersWith_of_ne y he] at ht
      exact hs.busy h' turn ht
  programOrder h' := by
    by_cases he : h' = h
    · subst he
      have horder := hs.programOrder h'
      rw [hh] at horder
      dsimp only
      rw [holdersWith_self]
      exact (List.Sublist.append_left (List.sublist_cons_self call calls) _).trans horder
    · simpa [holdersWith_of_ne y he] using hs.programOrder h'

variable {p : Dialogue call.Result} {events : List Event} {st : σ}

/-- A step of the call that has the lock is the next part of its block. -/
theorem goesOn (hs : Serial w x y order) (hh : y.holders h = ⟨calls, some ⟨call, p⟩⟩) {q : Dialogue call.Result}
    (hstep : p.step w y.world = (.rest q, events, st)) :
    Serial w x { y with
      holders := y.holdersWith h ⟨calls, some ⟨call, q⟩⟩
      world := st
      log := y.log ++ logged h events } order where
  exclusive h' := by
    by_cases he : h' = h
    · subst he
      simp [hs.lock_of_current hh]
    · simpa [holdersWith_of_ne y he] using hs.exclusive h'
  finished := hs.finished
  connection := hs.connection
  free hn := by
    have hlock := hs.lock_of_current hh
    rw [hn] at hlock
    cases hlock
  busy h' turn ht := by
    dsimp only at ht
    by_cases he : h' = h
    · subst he
      rw [holdersWith_self] at ht
      cases ht
      -- the part that is done grows by the events of the step
      obtain ⟨done, hlog, hrun⟩ := hs.busy h' ⟨call, p⟩ (by rw [hh])
      refine ⟨done ++ events, ?_, ?_⟩
      · rw [hlog, logged_append, List.append_assoc]
      · rw [hrun, run_eq_step, hstep, Run.after_after]
    · rw [holdersWith_of_ne y he, hs.current_of_ne (hs.lock_of_current hh) he] at ht
      cases ht
  programOrder h' := by
    by_cases he : h' = h
    · subst he
      simpa [hh] using hs.programOrder h'
    · simpa [holdersWith_of_ne y he] using hs.programOrder h'

/-- With its last step the call is the next one in turn. -/
theorem ends (hs : Serial w x y order) (hh : y.holders h = ⟨calls, some ⟨call, p⟩⟩) {c : Connection}
    {result : Option call.Result} (hstep : p.step w y.world = (.over c result, events, st)) :
    Serial w x { y with
      connection := c
      holders := y.holdersWith h ⟨calls, none⟩
      world := st
      lock := none
      log := y.log ++ logged h events
      finished := y.finished ++ [⟨h, call, result⟩] } (order ++ [(h, call)]) := by
  -- with the events of the last step the part that is done is the whole block
  obtain ⟨done, hlog, hrun⟩ := hs.busy h ⟨call, p⟩ (by rw [hh])
  have hran : (call.dialogue (inTurn w x.course order).1.connection).run w (inTurn w x.course order).1.world =
      ⟨result, c, done ++ events, st⟩ := by
    rw [← hs.connection, hrun, run_eq_step, hstep]
    rfl
  have hhold : (inTurn w x.course order).1.hold w (fun c => call.dialogue c) =
      (result, { connection := c, world := st, log := (inTurn w x.course order).1.log ++ (done ++ events) }) := by
    rw [Course.hold, hran]
  refine ⟨fun h' => ?_, ?_, ?_, fun _ => ⟨?_, ?_⟩, fun h' turn ht => ?_, fun h' => ?_⟩
  · by_cases he : h' = h
    · subst he
      simp
    · simp [holdersWith_of_ne y he, hs.current_of_ne (hs.lock_of_current hh) he]
  · rw [inTurn_snoc, hhold, hs.finished]
  · rw [inTurn_snoc, hhold]
  · rw [inTurn_snoc, hhold]
  · rw [blocks_snoc, inBlocks_snoc, hran, hlog, logged_append, List.append_assoc]
  · dsimp only at ht
    by_cases he : h' = h
    · subst he
      rw [holdersWith_self] at ht
      cases ht
    · rw [holdersWith_of_ne y he, hs.current_of_ne (hs.lock_of_current hh) he] at ht
      cases ht
  · by_cases he : h' = h
    · subst he
      simpa [hh, callsOf_snoc_self] using hs.programOrder h'
    · simpa [holdersWith_of_ne y he, callsOf_snoc_of_ne he] using hs.programOrder h'

end Serial

/-- **One step.** -/
theorem serial_step (hs : Serial w x y order) (h : Step w y z) : ∃ order, Serial w x z order := by
  cases h with
  | begins hl hh => exact ⟨_, hs.begins hl hh⟩
  | leaves hh => exact ⟨_, hs.leaves hh⟩
  | goesOn hh hstep => exact ⟨_, hs.goesOn hh hstep⟩
  | ends hh hstep => exact ⟨_, hs.ends hh hstep⟩

/-- **Any number of steps.** -/
theorem Steps.serial (hx : x.Fresh) (h : Steps w x y) : ∃ order, Serial w x y order := by
  induction h with
  | refl => exact ⟨[], hx.serial⟩
  | tail _ hstep ih =>
    obtain ⟨order, hs⟩ := ih
    exact serial_step hs hstep

end Turns
end OracleIntake
