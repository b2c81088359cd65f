import OracleIntake.Proofs.Dialogue.Moments

/-!
# What a dialogue ensures

A property of every way a dialogue can go, whatever the world answers and wherever the caller gives up.
`Ensures post past p` says: after the moments `past`, each run of `p` ends in a history, a connection and a
result (none, if the caller gave up) that satisfy `post`. It is computed along the dialogue, so that a
dialogue is treated like a program whose inputs are the answers.

* `ensures_run`: what a dialogue ensures holds of its runs in every world.
* `Ensures.mono`, `Ensures.andThen`, `Ensures.within`, `Ensures.frame`: one rule for each way to combine.
* `ensures_givenUp`: what a caller leaves who gives up.
-/
namespace OracleIntake.Dialogue
variable {α β σ : Type}

/-- What may be said of the end of a run: of its history, the connection and the result. -/
abbrev Post (α : Type) := List Moment → Connection → Option α → Prop

/-- After `past`, each run of the dialogue ends as `post` says. -/
def Ensures (post : Post α) (past : List Moment) : Dialogue α → Prop
  | done c a => post past c (some a)
  | release s p => p.Ensures post (past ++ [.released s])
  | await c q resume =>
    post (past ++ [.asked c q .givenUp]) c.abandoned none ∧
      ∀ a, (resume a).Ensures post (past ++ [.asked c q (.answered a)])
  | awaitUntil c q _ expire resume =>
    post (past ++ [.asked c q .givenUp]) c.abandoned none ∧
      (∀ t, (expire t).Ensures post (past ++ [.asked c q .late])) ∧
      ∀ a, (resume a).Ensures post (past ++ [.asked c q (.answered a)])

/-- **Soundness.** What a dialogue ensures holds of its runs in every world. -/
theorem ensures_run {post : Post α} {past : List Moment} {p : Dialogue α} (h : p.Ensures post past)
    (w : World σ) (st : σ) :
    post (past ++ p.moments w st) (p.run w st).connection (p.run w st).result := by
  induction p generalizing past st with
  | done c a => simpa [moments, run, Ensures] using h
  | release s p ih => simpa [moments, run, Run.after] using ih h st
  | await c q resume ih =>
    rw [moments, run]
    rcases w.answer q none st with ⟨a | _ | _, st⟩
    · simpa [Run.after] using ih a (h.2 a) st
    · exact h.1
    · exact h.1
  | awaitUntil c q deadline expire resume ihe ihr =>
    rw [moments, run]
    rcases w.answer q (some deadline) st with ⟨a | _ | _, st⟩
    · simpa [Run.after] using ihr a (h.2.2 a) st
    · simpa [Run.after] using ihe (w.elapsed st) (h.2.1 _) st
    · exact h.1

/-! ## Rules -/

theorem Ensures.mono {post post' : Post α} {past : List Moment} {p : Dialogue α}
    (h : p.Ensures post past) (hpost : ∀ ms c r, post ms c r → post' ms c r) : p.Ensures post' past := by
  induction p generalizing past with
  | done c a => exact hpost _ _ _ h
  | release s p ih => exact ih h
  | await c q resume ih => exact ⟨hpost _ _ _ h.1, fun a => ih a (h.2 a)⟩
  | awaitUntil c q deadline expire resume ihe ihr =>
    exact ⟨hpost _ _ _ h.1, fun t => ihe t (h.2.1 t), fun a => ihr a (h.2.2 a)⟩

/-- What happens after some moments does not depend on them. -/
theorem Ensures.frame {post : Post α} {past : List Moment} {p : Dialogue α} (h : p.Ensures post past)
    (before : List Moment) :
    p.Ensures (fun ms c r => ∃ later, ms = before ++ later ∧ post later c r) (before ++ past) := by
  induction p generalizing past with
  | done c a => exact ⟨past, rfl, h⟩
  | release s p ih => simpa [Ensures] using ih h
  | await c q resume ih =>
    exact ⟨⟨_, List.append_assoc .., h.1⟩, fun a => by simpa using ih a (h.2 a)⟩
  | awaitUntil c q deadline expire resume ihe ihr =>
    exact ⟨⟨_, List.append_assoc .., h.1⟩, fun t => by simpa using ihe t (h.2.1 t),
      fun a => by simpa using ihr a (h.2.2 a)⟩

/-- **Sequence.** The rest starts where the first part ends, unless the caller gave that up. -/
theorem Ensures.andThen {mid : Post α} {post : Post β} {past : List Moment} {p : Dialogue α}
    {next : Connection → α → Dialogue β} (h : p.Ensures mid past)
    (hnone : ∀ ms c, mid ms c none → post ms c none)
    (hsome : ∀ ms c a, mid ms c (some a) → (next c a).Ensures post ms) :
    (p.andThen next).Ensures post past := by
  induction p generalizing past with
  | done c a => exact hsome _ _ _ h
  | release s p ih => exact ih h
  | await c q resume ih => exact ⟨hnone _ _ h.1, fun a => ih a (h.2 a)⟩
  | awaitUntil c q deadline expire resume ihe ihr =>
    exact ⟨hnone _ _ h.1, fun t => ihe t (h.2.1 t), fun a => ihr a (h.2.2 a)⟩

/-- **Deadline.** Where the caller may give up, the deadline may pass as well. -/
theorem Ensures.within {post : Post α} {past : List Moment} {p : Dialogue α} {deadline : Duration}
    {late : Connection → Duration → Dialogue α} (h : p.Ensures post past)
    (hlate : ∀ ms c q t, post (ms ++ [.asked c q .givenUp]) c.abandoned none →
      (late c.abandoned t).Ensures post (ms ++ [.asked c q .late])) :
    (p.within deadline late).Ensures post past := by
  induction p generalizing past with
  | done c a => exact h
  | release s p ih => exact ih h
  | await c q resume ih => exact ⟨h.1, fun t => hlate _ _ _ t h.1, fun a => ih a (h.2 a)⟩
  | awaitUntil c q d expire resume ihe ihr => exact h

theorem ensures_releasing {post : Post α} {past : List Moment} {session : Option SessionId}
    {p : Dialogue α} :
    (releasing session p).Ensures post past ↔
      p.Ensures post (past ++ session.toList.map .released) := by
  cases session with
  | none => simp [releasing]
  | some s => rfl

/-! ## Giving up -/

/-- Nobody gave up. -/
def Patient (ms : List Moment) : Prop := ∀ c q, .asked c q .givenUp ∉ ms

section
variable {ms : List Moment}

theorem patient_nil : Patient [] := fun _ _ => List.not_mem_nil

theorem Patient.snoc (h : Patient ms) {m : Moment} (hm : ∀ c q, m ≠ .asked c q .givenUp) : Patient (ms ++ [m]) := by
  intro c q hmem
  rcases List.mem_append.1 hmem with hmem | hmem
  · exact h c q hmem
  · exact hm c q (List.mem_singleton.1 hmem).symm

theorem Patient.eq_of_mem_snoc (h : Patient ms) {m : Moment} {c : Connection} {q : Request}
    (hmem : .asked c q .givenUp ∈ ms ++ [m]) : .asked c q .givenUp = m :=
  (List.mem_append.1 hmem).elim (fun hmem => absurd hmem (h c q)) List.mem_singleton.1

end

/-- Where its caller gives up, a dialogue is over, and the connection is left as it stood there. -/
theorem ensures_givenUp {past : List Moment} (p : Dialogue α) (h : Patient past) :
    p.Ensures (fun ms c r => ∀ c' q, .asked c' q .givenUp ∈ ms →
      r = none ∧ c = c'.abandoned ∧ ∃ before, ms = before ++ [.asked c' q .givenUp]) past := by
  induction p generalizing past with
  | done c a => exact fun c' q hmem => absurd hmem (h c' q)
  | release s p ih => exact ih (h.snoc fun _ _ he => by cases he)
  | await c q resume ih =>
    refine ⟨fun c' q' hmem => ?_, fun a => ih a (h.snoc fun _ _ he => by cases he)⟩
    cases h.eq_of_mem_snoc hmem
    exact ⟨rfl, rfl, past, rfl⟩
  | awaitUntil c q deadline expire resume ihe ihr =>
    refine ⟨fun c' q' hmem => ?_, fun t => ihe t (h.snoc fun _ _ he => by cases he),
      fun a => ihr a (h.snoc fun _ _ he => by cases he)⟩
    cases h.eq_of_mem_snoc hmem
    exact ⟨rfl, rfl, past, rfl⟩

end OracleIntake.Dialogue
