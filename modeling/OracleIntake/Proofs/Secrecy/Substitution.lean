import OracleIntake.Connection.Cycle
import OracleIntake.Proofs.Settings.Reading

/-!
# Another password in a dialogue

A dialogue with another password in it is the same dialogue with the password of its connections and of the
endpoints that it asks sessions at replaced. Two drivers that give the same answers to two passwords cannot
tell two dialogues apart that differ in nothing else.

* `andThen_withPassword`, `within_withPassword`: what is put together with another password.
* `run_withPassword`: the run of a dialogue with another password.
-/
namespace OracleIntake

def Connection.withPassword (c : Connection) (p : Password) : Connection :=
  { c with settings := c.settings.withPassword p, target := c.target.map (·.withPassword p) }

namespace Request

def withPassword (p : Password) : Request → Request
  | openSession target => openSession (target.withPassword p)
  | q => q

/-- What answers a request does not depend on the password. -/
theorem answer_withPassword (p : Password) (q : Request) : (q.withPassword p).Answer = q.Answer := by
  cases q <;> rfl

end Request

def Event.withPassword (p : Password) : Event → Event
  | asked q => asked (q.withPassword p)
  | e => e

/-- The same wait for another answer. -/
def Waited.map {α β : Type} (f : α → β) : Waited α → Waited β
  | answered a => answered (f a)
  | late => late
  | givenUp => givenUp

namespace Request
variable {q : Request} {p p' : Password}

/-- The answer to a request with one password as the answer to the request with another. -/
def answerAs (p' : Password) (a : (q.withPassword p).Answer) :
    (q.withPassword p').Answer :=
  cast (by rw [answer_withPassword, answer_withPassword]) a

theorem cast_answerAs (a : (q.withPassword p).Answer) :
    cast (q.answer_withPassword p') (answerAs p' a) = cast (q.answer_withPassword p) a := by
  simp [answerAs]

theorem answered_withPassword (a : (q.withPassword p).Answer) :
    (Event.asked (q.withPassword p) :: ((q.withPassword p).handedOut a).map .opened).map (·.withPassword p') =
      .asked (q.withPassword p') :: ((q.withPassword p').handedOut (answerAs p' a)).map .opened := by
  cases q with
  | openSession t => cases a <;> rfl
  | _ => rfl

theorem unanswered_withPassword (q : Request) :
    (Event.asked (q.withPassword p) :: (q.withPassword p).owned.map .released).map (·.withPassword p') =
      .asked (q.withPassword p') :: (q.withPassword p').owned.map .released := by
  cases q <;> rfl

end Request

namespace Connection
variable (c : Connection) (p : Password)

@[simp] theorem isOpen_withPassword : (c.withPassword p).isOpen = c.isOpen := rfl

@[simp] theorem openSession?_withPassword : (c.withPassword p).openSession? = c.openSession? := rfl

@[simp] theorem withPassword_withPassword (p' : Password) :
    (c.withPassword p).withPassword p' = c.withPassword p' := by
  simp [withPassword, Settings.withPassword, Target.withPassword, Function.comp_def]

theorem abandoned_withPassword : (c.withPassword p).abandoned = c.abandoned.withPassword p := by
  rw [abandoned, abandoned, apply_ite (Connection.withPassword · p)]
  rfl

/-- Which fallback is taken does not depend on the password. -/
theorem fallBack_withPassword (target : Target) (failure : DriverFailure) :
    (c.withPassword p).fallBack (target.withPassword p) failure =
      (c.fallBack target failure).map (·.withPassword p) (·.withPassword p) := by
  unfold fallBack
  cases failure.effectiveKind with
  | transport =>
    rw [apply_ite (Prod.map _ _)]
    rfl
  | listener =>
    have htried : (c.withPassword p).progress.portTried = c.progress.portTried := rfl
    have hport : (c.withPassword p).settings.fallbackPort = c.settings.fallbackPort := rfl
    rw [htried, hport]
    cases c.progress.portTried with
    | some port => rfl
    | none =>
      cases c.settings.fallbackPort with
      | none => rfl
      | some port =>
        rw [apply_ite (Prod.map _ _)]
        rfl
  | _ => rfl

end Connection

namespace Dialogue
variable {α β σ : Type} {p p' : Password}

def withPassword (p : Password) : Dialogue α → Dialogue α
  | done c a => done (c.withPassword p) a
  | release s d => release s (d.withPassword p)
  | await c q resume =>
    await (c.withPassword p) (q.withPassword p) fun a => (resume (cast (q.answer_withPassword p) a)).withPassword p
  | awaitUntil c q deadline expire resume =>
    awaitUntil (c.withPassword p) (q.withPassword p) deadline (fun t => (expire t).withPassword p)
      fun a => (resume (cast (q.answer_withPassword p) a)).withPassword p

theorem andThen_withPassword {next next' : Connection → α → Dialogue β}
    (h : ∀ c a, next' (c.withPassword p) a = (next c a).withPassword p) (d : Dialogue α) :
    (d.withPassword p).andThen next' = (d.andThen next).withPassword p := by
  induction d with
  | done c a => exact h c a
  | release s d ih => simp only [withPassword, andThen, ih]
  | await c q resume ih => simp only [withPassword, andThen, ih]
  | awaitUntil c q deadline expire resume ihe ihr => simp only [withPassword, andThen, ihe, ihr]

theorem releasing_withPassword (session : Option SessionId) (d : Dialogue α) :
    releasing session (d.withPassword p) = (releasing session d).withPassword p := by
  cases session <;> rfl

theorem within_withPassword {deadline : Duration} {late late' : Connection → Duration → Dialogue α}
    (h : ∀ c t, late' (c.withPassword p) t = (late c t).withPassword p) (d : Dialogue α) :
    (d.withPassword p).within deadline late' = (d.within deadline late).withPassword p := by
  induction d with
  | done c a => rfl
  | release s d ih => simp only [withPassword, within, ih]
  | await c q resume ih => simp only [withPassword, within, ih, Connection.abandoned_withPassword, h]
  | awaitUntil c q deadline expire resume ihe ihr => rfl

/-- The two worlds give the same answers, in the same time, the one to the first password and the other to the
second. -/
structure World.SameAnswers (p p' : Password) (w w' : World σ) : Prop where
  opens : ∀ (t : Target) (deadline : Option Duration) (st : σ),
    w'.answer (.openSession (t.withPassword p')) deadline st =
      w.answer (.openSession (t.withPassword p)) deadline st
  others : ∀ (q : Request) (deadline : Option Duration) (st : σ), (∀ t, q ≠ .openSession t) →
    w'.answer q deadline st = w.answer q deadline st
  elapsed : ∀ st, w'.elapsed st = w.elapsed st

theorem World.SameAnswers.refl (p : Password) (w : World σ) : w.SameAnswers p p w :=
  ⟨fun _ _ _ => rfl, fun _ _ _ _ => rfl, fun _ => rfl⟩

def Run.withPassword (p : Password) (r : Run σ α) : Run σ α :=
  { r with connection := r.connection.withPassword p, log := r.log.map (·.withPassword p) }

theorem Run.after_withPassword (r : Run σ α) (events : List Event) (p : Password) :
    (r.after events).withPassword p = (r.withPassword p).after (events.map (·.withPassword p)) := by
  simp [Run.withPassword, Run.after]

theorem World.SameAnswers.answer {w w' : World σ} (h : w.SameAnswers p p' w') (q : Request)
    (deadline : Option Duration) (st : σ) :
    w'.answer (q.withPassword p') deadline st =
      (w.answer (q.withPassword p) deadline st).map (Waited.map (Request.answerAs p')) id := by
  have hsame : ∀ x : Waited (q.withPassword p).Answer × σ,
      x.map (Waited.map (Request.answerAs p')) id =
        cast (by rw [Request.answer_withPassword, Request.answer_withPassword]) x := by
    rintro ⟨a | _ | _, st⟩ <;> cases q <;> rfl
  rw [hsame]
  cases q with
  | openSession t => exact h.opens t deadline st
  | _ => exact h.others _ deadline st nofun

theorem unanswered_run (c : Connection) (q : Request) (st : σ) :
    (⟨none, (c.withPassword p').abandoned,
      .asked (q.withPassword p') :: (q.withPassword p').owned.map .released, st⟩ : Run σ α) =
    Run.withPassword p' ⟨none, (c.withPassword p).abandoned,
      .asked (q.withPassword p) :: (q.withPassword p).owned.map .released, st⟩ := by
  simp only [Run.withPassword, Request.unanswered_withPassword, ← Connection.abandoned_withPassword,
    Connection.withPassword_withPassword]

/-- **Another password.** -/
theorem run_withPassword {w w' : World σ} (h : w.SameAnswers p p' w') (d : Dialogue α) (st : σ) :
    (d.withPassword p').run w' st = ((d.withPassword p).run w st).withPassword p' := by
  induction d generalizing st with
  | done c a => simp [withPassword, run, Run.withPassword]
  | release s d ih =>
    rw [withPassword, run, ih]
    exact (Run.after_withPassword _ [.released s] p').symm
  | await c q resume ih =>
    simp only [withPassword, run, h.answer]
    rcases w.answer (q.withPassword p) none st with ⟨a | _ | _, st⟩
    · simp only [Prod.map_apply, id_eq, Waited.map, Request.cast_answerAs, ih, Run.after_withPassword,
        Request.answered_withPassword]
    · exact unanswered_run c q st
    · exact unanswered_run c q st
  | awaitUntil c q deadline expire resume ihe ihr =>
    simp only [withPassword, run, h.answer]
    rcases w.answer (q.withPassword p) (some deadline) st with ⟨a | _ | _, st⟩
    · simp only [Prod.map_apply, id_eq, Waited.map, Request.cast_answerAs, ihr, Run.after_withPassword,
        Request.answered_withPassword]
    · -- the deadline passes, at the same time in both worlds
      simp only [Prod.map_apply, id_eq, Waited.map, h.elapsed, ihe, Run.after_withPassword,
        Request.unanswered_withPassword]
    · exact unanswered_run c q st

end Dialogue
end OracleIntake
