import OracleIntake.Proofs.Dialogue.Moments

/-!
# Runs in sequence

A dialogue that goes on after another one runs as the first and then, from where that ended, as the second.
Where the caller gave up the first, nothing follows.

* `run_andThen`: the run of two dialogues in sequence.
-/
namespace OracleIntake.Dialogue
variable {α β γ σ : Type}

namespace Run

/-- The run that goes on with `next` from the end of `r`, unless the caller gave up. -/
def follow (r : Run σ α) (next : Connection → α → σ → Run σ β) : Run σ β :=
  match r.result with
  | some a => (next r.connection a r.world).after r.log
  | none => { r with result := none }

def map (f : α → β) (r : Run σ α) : Run σ β := { r with result := r.result.map f }

@[simp] theorem after_after (r : Run σ α) (es fs : List Event) : (r.after fs).after es = r.after (es ++ fs) := by
  simp [after]

theorem follow_after (r : Run σ α) (es : List Event) (next : Connection → α → σ → Run σ β) :
    (r.after es).follow next = (r.follow next).after es := by
  unfold follow after
  cases r.result <;> simp

theorem follow_of_some {r : Run σ α} {a : α} (h : r.result = some a) (next : Connection → α → σ → Run σ β) :
    r.follow next = (next r.connection a r.world).after r.log := by
  simp [follow, h]

theorem follow_of_none {r : Run σ α} (h : r.result = none) (next : Connection → α → σ → Run σ β) :
    r.follow next = { r with result := none } := by
  simp [follow, h]

end Run

theorem andThen_done (p : Dialogue α) : p.andThen done = p := by
  induction p with
  | done c a => rfl
  | release s p ih => rw [andThen, ih]
  | await c q resume ih => simp only [andThen, ih]
  | awaitUntil c q deadline expire resume ihe ihr => simp only [andThen, ihe, ihr]

theorem andThen_assoc (p : Dialogue α) (f : Connection → α → Dialogue β) (g : Connection → β → Dialogue γ) :
    (p.andThen f).andThen g = p.andThen fun c a => (f c a).andThen g := by
  induction p with
  | done c a => rfl
  | release s p ih => simp only [andThen, ih]
  | await c q resume ih => simp only [andThen, ih]
  | awaitUntil c q deadline expire resume ihe ihr => simp only [andThen, ihe, ihr]

/-- **Sequence.** -/
theorem run_andThen (w : World σ) (p : Dialogue α) (next : Connection → α → Dialogue β) (st : σ) :
    (p.andThen next).run w st = (p.run w st).follow fun c a => (next c a).run w := by
  induction p generalizing st with
  | done c a => rfl
  | release s p ih => rw [andThen, run, run, ih, Run.follow_after]
  | await c q resume ih =>
    rw [andThen, run, run]
    rcases w.answer q none st with ⟨a | _ | _, st⟩
    · dsimp only
      rw [ih, Run.follow_after]
    · rfl
    · rfl
  | awaitUntil c q deadline expire resume ihe ihr =>
    rw [andThen, run, run]
    rcases w.answer q (some deadline) st with ⟨a | _ | _, st⟩
    · dsimp only
      rw [ihr, Run.follow_after]
    · dsimp only
      rw [ihe, Run.follow_after]
    · rfl

/-- Going on with nothing but another result changes the result. -/
theorem run_andThen_done (w : World σ) (p : Dialogue α) (f : α → β) (st : σ) :
    (p.andThen fun c a => .done c (f a)).run w st = (p.run w st).map f := by
  rw [run_andThen]
  unfold Run.follow Run.map
  cases (p.run w st).result <;> simp [run, Run.after]

end OracleIntake.Dialogue
