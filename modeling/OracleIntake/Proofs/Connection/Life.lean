import OracleIntake.Connection.Call
import OracleIntake.Proofs.Dialogue.Ensures

/-!
# The life of a connection

A connection is made closed and then lives through calls, one after the other, each in a world of its own. A
call is held to its end or given up by its caller; the one thing that a life leaves out is a caller who gives
up while a session is being closed.

* `Reachable`: the connections that some life leads to.
* `life_makeAll`: a course of calls in one world is such a life, and its log is what the life shows.
-/
namespace OracleIntake
open Dialogue

/-- A call came to its end, or its caller gave it up, but not while it closed a session. -/
def Orderly (ms : List Moment) (finished : Bool) : Prop :=
  finished = true ∨ ∀ c s, ms.getLast? ≠ some (.asked c (.close s) .givenUp)

structure Episode where
  call : Call
  /-- The connection when the call was made. -/
  before : Connection
  moments : List Moment

/-- A connection with these settings lives through some calls. -/
inductive Life (s : Settings) : List Episode → Connection → Prop where
  | fresh : Life s [] { settings := s }
  | call {past : List Episode} {c : Connection} {σ : Type} (w : World σ) (st : σ) (call : Call) :
    Life s past c →
    Orderly ((call.dialogue c).moments w st) ((call.dialogue c).run w st).result.isSome →
    Life s (past ++ [⟨call, c, (call.dialogue c).moments w st⟩]) ((call.dialogue c).run w st).connection

/-- Settings of a secure endpoint with a port to fall back to. -/
def Settings.guarded : Settings where
  target := {
    host := "db", port := 2484, service := "XE", username := "scott", password := ⟨"tiger"⟩
    transport := .secure, verify := true, timeout := .ofSeconds 30 }
  retry := { retries := 4, delay := .ofMillis 10 }
  fallbackPort := some 1521

/-- Some life leads to the connection. -/
def Reachable (s : Settings) (c : Connection) : Prop := ∃ past, Life s past c

/-- The moments of a life, in order. -/
def history (past : List Episode) : List Moment := past.flatMap Episode.moments

@[simp] theorem history_nil : history [] = [] := rfl

@[simp] theorem history_snoc (past : List Episode) (e : Episode) :
    history (past ++ [e]) = history past ++ e.moments := by
  simp [history]

theorem orderly_finished (ms : List Moment) : Orderly ms true := .inl rfl

theorem orderly_givenUp {ms : List Moment} {c : Connection} {q : Request} :
    Orderly (ms ++ [.asked c q .givenUp]) false ↔ ∀ s, q ≠ .close s := by
  simp only [Orderly, Bool.false_eq_true, false_or, List.getLast?_append, List.getLast?_singleton,
    Option.some_or, ne_eq, Option.some.injEq]
  constructor
  · rintro h s rfl
    exact h c s rfl
  · intro h c' s he
    cases he
    exact h s rfl

/-- What every call keeps holds of every reachable connection. -/
theorem Reachable.keeps {s : Settings} {P : Connection → Prop} {c : Connection} (h : Reachable s c)
    (hfresh : P { settings := s })
    (hcall : ∀ (call : Call) (c : Connection), P c →
      (call.dialogue c).Ensures (fun ms c' r => Orderly ms r.isSome → P c') []) : P c := by
  obtain ⟨past, h⟩ := h
  induction h with
  | fresh => exact hfresh
  | call w st call _ ho ih => exact ensures_run (hcall call _ ih) w st (by simpa using ho)

/-- Every call of the list, made in turn, is orderly. -/
def Course.AllOrderly {σ : Type} (w : World σ) (x : Course σ) : List Call → Prop
  | [] => True
  | call :: calls =>
    Orderly ((call.dialogue x.connection).moments w x.world)
      ((call.dialogue x.connection).run w x.world).result.isSome ∧
    AllOrderly w (x.hold w fun c => call.dialogue c).2 calls

/-- A course of calls in one world is a life. -/
theorem life_makeAll {s : Settings} {σ : Type} (w : World σ) (calls : List Call) :
    ∀ {past : List Episode} {x : Course σ}, Life s past x.connection →
      x.log = Moments.events (history past) → x.AllOrderly w calls →
      ∃ past', Life s past' (x.makeAll w calls).connection ∧
        (x.makeAll w calls).log = Moments.events (history past') := by
  induction calls with
  | nil => exact fun hl hlog _ => ⟨_, hl, hlog⟩
  | cons call calls ih =>
    intro past x hl hlog ho
    refine ih (.call w x.world call hl ho.1) ?_ ho.2
    simp [Course.hold, log_eq_events, hlog]

end OracleIntake
