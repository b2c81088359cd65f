import OracleIntake.Proofs.Dialogue.Views

/-!
# Answers of an open session

What an open connection makes of the answer to something that it asks its session, be it a statement or a
question of a check.

* `Settles`: the three ways in which an answer comes out.
* `run_inquire`: a session that is asked is asked once, and its answer comes out in one of these ways.
-/
namespace OracleIntake
open Dialogue Moments

namespace Connection
variable {σ α : Type} {c : Connection}

theorem openSession?_of_isOpen (h : c.isOpen = true) :
    ∃ session, c.openSession? = some session ∧ c.session = some session := by
  simp only [isOpen, Bool.and_eq_true, beq_iff_eq] at h
  obtain ⟨session, hs⟩ := Option.isSome_iff_exists.1 h.2
  exact ⟨session, by simp [openSession?, h.1, hs], hs⟩

theorem lifecycle_of_isOpen (h : c.isOpen = true) : c.lifecycle = .opened := by
  simp only [isOpen, Bool.and_eq_true, beq_iff_eq] at h
  exact h.1

theorem abandoned_of_isOpen (h : c.isOpen = true) : c.abandoned = c := by
  simp [abandoned, lifecycle_of_isOpen h]

theorem openSession?_of_not_isOpen (h : c.isOpen = false) : c.openSession? = none := by
  unfold openSession?
  split
  · next ho => simpa [isOpen, ho] using h
  · rfl

/-- What an open connection makes of the driver's answer to a statement: the result, the connection that is
left, and what else the world sees. -/
inductive Settles (sql : String) (c : Connection) (session : SessionId) :
    Except DriverFailure α → Except Fault α → Connection → List Event → Prop where
  | value (a : α) : Settles sql c session (.ok a) (.ok a) c []
  /-- The statement failed, and the session is still good. -/
  | failed {f : DriverFailure} : f.effectiveKind ≠ .sessionLost →
    Settles sql c session (.error f) (.error (.query f.text (some sql) false)) c []
  /-- The session is lost. It is let go and told by a fatal fault, and that is all. -/
  | lost {f : DriverFailure} : f.effectiveKind = .sessionLost →
    Settles sql c session (.error f) (.error (.query f.text (some sql) true))
      (c.broken (.query f.text (some sql) true)) [.released session]

/-- After the answer no session is asked for, and none is asked for anything. -/
theorem Settles.views {sql : String} {session : SessionId} {answer : Except DriverFailure α} {r : Except Fault α}
    {c' : Connection} {es : List Event} (h : Settles sql c session answer r c' es) :
    Log.targets es = [] ∧ Log.calls es = [] ∧ Log.sessions es = [] := by
  cases h <;> exact ⟨rfl, rfl, rfl⟩

theorem Settles.told {sql : String} {session : SessionId} {answer : Except DriverFailure α} {r : Except Fault α}
    {c' : Connection} {es : List Event} (h : Settles sql c session answer r c' es) :
    r ≠ .error .notConnected := by
  cases h <;> nofun

/-- The fault is fatal where the answer cost the connection its session. -/
theorem Settles.fatal_iff {sql : String} {session : SessionId} {answer : Except DriverFailure α}
    {r : Except Fault α} {c' : Connection} {es : List Event} (h : Settles sql c session answer r c' es)
    (hopen : c.lifecycle = .opened) :
    (∃ fault, r = .error fault ∧ fault.isFatal = true) ↔ c'.lifecycle = .failed := by
  cases h with
  | value a => simp [hopen]
  | failed hf => simp [hopen, Fault.isFatal]
  | lost hf => simp [broken, Fault.isFatal]

theorem run_settle (w : World σ) (st : σ) (sql : String) {session : SessionId} (hs : c.session = some session)
    (answer : Except DriverFailure α) :
    ∃ r, ((settle c sql answer).run w st).result = some r ∧ ((settle c sql answer).run w st).world = st ∧
      Settles sql c session answer r ((settle c sql answer).run w st).connection
        ((settle c sql answer).run w st).log := by
  cases answer with
  | ok a => exact ⟨.ok a, rfl, rfl, .value a⟩
  | error f =>
    by_cases hf : f.effectiveKind = .sessionLost
    · have hsettle : settle c sql (.error f : Except DriverFailure α) =
          .release session (.done (c.broken (.query f.text (some sql) true))
            (.error (.query f.text (some sql) true))) := by
        simp [settle, hf, hs, releasing, Fault.ofStatement]
      rw [hsettle]
      exact ⟨_, rfl, rfl, .lost hf⟩
    · have hsettle : settle c sql (.error f : Except DriverFailure α) =
          .done c (.error (.query f.text (some sql) false)) := by
        simp [settle, hf, Fault.ofStatement]
      rw [hsettle]
      exact ⟨_, rfl, rfl, .failed hf⟩

/-- Where no session is open, none is asked and nothing changes. -/
theorem run_inquire_of_not_isOpen (h : c.isOpen = false) (w : World σ) (st : σ) (sql : String) (i : Inquiry α) :
    (c.inquire sql i).run w st = ⟨some (.error .notConnected), c, [], st⟩ := by
  rw [inquire, withSession, openSession?_of_not_isOpen h]
  rfl

section
variable {w : World σ} {st : σ} {sql : String} {i : Inquiry α} {session : SessionId}

theorem inquire_eq_await (hopen : c.openSession? = some session) :
    c.inquire sql i = .await c (i.request session) fun a => settle c sql (cast (i.answer_eq session) a) := by
  rw [inquire, withSession, hopen]

variable (sql) in
/-- An open session that answers is asked once, and the answer decides the rest. -/
theorem run_inquire_of_answered (hopen : c.openSession? = some session) (hs : c.session = some session)
    {a : (i.request session).Answer} {st' : σ} (ha : w.answer (i.request session) none st = (.answered a, st')) :
    ∃ r es, ((c.inquire sql i).run w st).result = some r ∧ ((c.inquire sql i).run w st).world = st' ∧
      ((c.inquire sql i).run w st).log = .asked (i.request session) :: es ∧
      Settles sql c session (cast (i.answer_eq session) a) r ((c.inquire sql i).run w st).connection es := by
  obtain ⟨r, hr, hworld, hsettles⟩ := run_settle w st' sql hs (cast (i.answer_eq session) a)
  rw [inquire_eq_await hopen, run, ha]
  refine ⟨r, _, hr, hworld, ?_, hsettles⟩
  simp only [Run.after, Request.handedOut_of_session (i.session_eq session)]
  rfl

/-- A statement on an open session is sent to it once, and the answer decides the rest. -/
theorem run_inquire (hopen : c.openSession? = some session) (hs : c.session = some session) {r : Except Fault α}
    (hr : ((c.inquire sql i).run w st).result = some r) :
    ∃ a es, w.answer (i.request session) none st = (.answered a, ((c.inquire sql i).run w st).world) ∧
      ((c.inquire sql i).run w st).log = .asked (i.request session) :: es ∧
      Settles sql c session (cast (i.answer_eq session) a) r ((c.inquire sql i).run w st).connection es := by
  rcases ha : w.answer (i.request session) none st with ⟨a | _ | _, st'⟩
  · obtain ⟨r', es, hr', hworld, hlog, hsettles⟩ := run_inquire_of_answered sql hopen hs ha
    cases hr'.symm.trans hr
    exact ⟨a, es, by rw [hworld], hlog, hsettles⟩
  · rw [inquire_eq_await hopen, run, ha] at hr
    cases hr
  · rw [inquire_eq_await hopen, run, ha] at hr
    cases hr

theorem run_inquire_of_none (hopen : c.openSession? = some session) (hs : c.session = some session)
    (habandoned : c.abandoned = c) (hr : ((c.inquire sql i).run w st).result = none) :
    ((c.inquire sql i).run w st).connection = c := by
  rcases ha : w.answer (i.request session) none st with ⟨a | _ | _, st'⟩
  · obtain ⟨r, es, hr', -⟩ := run_inquire_of_answered sql hopen hs ha
    cases hr'.symm.trans hr
  · rw [inquire_eq_await hopen, run, ha]
    exact habandoned
  · rw [inquire_eq_await hopen, run, ha]
    exact habandoned

end

end Connection
end OracleIntake
