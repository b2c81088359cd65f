import OracleIntake.Proofs.Connection.Answers
import OracleIntake.Proofs.Connection.Custody

/-!
# The endpoint of the open session

An open connection holds the session that was handed out last, and records the endpoint at which that session was
opened, whatever calls were made before and wherever their callers gave up.

* `Lived`: the connections that some calls lead to.
* `Lived.atLatest`: each of them, where it is open, is at the session that was handed out last.
-/
namespace OracleIntake
open Dialogue Moments

/-- The session that is handed out, with the endpoint at which it was opened. -/
def Moment.handedOut? : Moment → Option (SessionId × Target)
  | asked _ (.openSession target) (.answered (.ok session)) => some (session, target)
  | _ => none

/-- The session that was handed out last, with its endpoint. -/
def Moments.latest (ms : List Moment) : Option (SessionId × Target) := (ms.filterMap Moment.handedOut?).getLast?

namespace Moments
variable {ms : List Moment} {m : Moment}

theorem latest_snoc_none (h : m.handedOut? = none) : latest (ms ++ [m]) = latest ms := by
  simp [latest, h]

theorem latest_snoc_some {entry : SessionId × Target} (h : m.handedOut? = some entry) :
    latest (ms ++ [m]) = some entry := by
  simp [latest, h]

end Moments

theorem Moment.handedOut?_of_session {c : Connection} {q : Request} {s : SessionId} (h : q.session? = some s)
    (e : Waited q.Answer) : (asked c q e).handedOut? = none := by
  cases q with
  | openSession => cases h
  | _ => rfl

/-- An open connection holds the session that was handed out last, and its endpoint. -/
def Connection.AtLatest (ms : List Moment) (c : Connection) : Prop :=
  c.isOpen = true → ∃ session target, c.session = some session ∧ c.target = some target ∧
    latest ms = some (session, target)

namespace Connection
variable {c : Connection} {ms before past : List Moment}

theorem AtLatest.snoc (h : AtLatest ms c) {m : Moment} (hm : m.handedOut? = none) : AtLatest (ms ++ [m]) c := by
  rwa [AtLatest, latest_snoc_none hm]

theorem atLatest_of_not_isOpen (h : c.isOpen = false) : AtLatest ms c := by
  intro ho
  rw [h] at ho
  cases ho

theorem atLatest_cycleRan {s : Settings} {timed : Bool} {r : Option (Except Fault Unit)}
    (h : s.CycleRan timed ms c r) : AtLatest (before ++ ms) c := by
  cases h with
  | opened =>
    intro _
    refine ⟨_, _, rfl, rfl, ?_⟩
    rw [← List.append_assoc]
    exact latest_snoc_some rfl
  | exhausted => exact atLatest_of_not_isOpen rfl
  | givenUp hw =>
    obtain ⟨fs, n, rfl⟩ := hw.midCycle
    exact atLatest_of_not_isOpen rfl
  | late => exact atLatest_of_not_isOpen rfl

theorem connectBy_atLatest (h : AtLatest before c) (deadline : Option Duration) :
    (c.connectBy deadline).Ensures (fun ms c _ => AtLatest (before ++ ms) c) [] := by
  cases ho : c.isOpen with
  | true =>
    rw [connectBy_of_open deadline ho]
    simpa [Ensures] using h
  | false =>
    refine (connectBy_ensures_of_left deadline ho).mono fun ms c' r h => ?_
    obtain ⟨later, rfl, hran⟩ := h
    rw [← List.append_assoc]
    exact atLatest_cycleRan hran

theorem inquire_atLatest {α : Type} (h : AtLatest (before ++ past) c) (sql : String) (i : Inquiry α) :
    (c.inquire sql i).Ensures (fun ms c _ => AtLatest (before ++ ms) c) past := by
  refine withSession_ensures h fun session ho hs => ?_
  have hsnoc : ∀ e, AtLatest (before ++ (past ++ [.asked c (i.request session) e])) c := fun e => by
    rw [← List.append_assoc]
    exact h.snoc (Moment.handedOut?_of_session (i.session_eq session) e)
  refine ⟨?_, fun a => settle_ensures (fun _ _ => hsnoc _) fun _ _ _ _ => atLatest_of_not_isOpen rfl⟩
  rw [abandoned_of_isOpen (by simp [isOpen, ho, hs])]
  exact hsnoc _

theorem disconnect_atLatest : c.disconnect.Ensures (fun ms c _ => AtLatest (before ++ ms) c) past := by
  unfold disconnect
  split
  · refine ⟨atLatest_of_not_isOpen ?_, fun _ => atLatest_of_not_isOpen rfl⟩
    unfold abandoned
    split <;> simp [isOpen, broken]
  · exact atLatest_of_not_isOpen rfl

theorem upholds_atLatest (before : List Moment) : Upholds fun ms c _ => AtLatest (before ++ ms) c where
  connects deadline h := connectBy_atLatest (by simpa using h) deadline
  inquires sql i h := inquire_atLatest h sql i
  disconnects _ := disconnect_atLatest

end Connection

/-- A connection with these settings was led to where it is by calls with these moments, each in a world of its
own. Their callers may have given up anywhere, also while a session was being closed. -/
inductive Lived (s : Settings) : List Moment → Connection → Prop where
  | fresh : Lived s [] { settings := s }
  | call {ms : List Moment} {c : Connection} {σ : Type} (w : World σ) (st : σ) (call : Call) :
    Lived s ms c → Lived s (ms ++ (call.dialogue c).moments w st) ((call.dialogue c).run w st).connection

theorem Life.lived {s : Settings} {past : List Episode} {c : Connection} (h : Life s past c) :
    Lived s (history past) c := by
  induction h with
  | fresh => exact .fresh
  | call w st call _ _ ih =>
    rw [history_snoc]
    exact .call w st call ih

theorem Lived.atLatest {s : Settings} {past : List Moment} {c : Connection} (h : Lived s past c) :
    c.AtLatest past := by
  induction h with
  | fresh => exact Connection.atLatest_of_not_isOpen rfl
  | call w st call _ ih =>
    exact ensures_run ((Connection.upholds_atLatest _).call (by simpa using ih) call) w st

end OracleIntake
