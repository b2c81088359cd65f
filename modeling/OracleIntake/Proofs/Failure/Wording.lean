import OracleIntake.Fault
import OracleIntake.Proofs.Text.Separated

/-!
# Faults read back from their words

A report keeps of a fault nothing but its words. The number of attempts ends at the first space behind it, the
fallbacks at the first parenthesis and the kind of the failure at the first colon. None of them has the character in it
at which it ends, so they are told before the driver's own message begins, and a message that looks like such words
cannot be taken for another failure.

* `Progress.fallbacks_inj`: what the list of fallbacks tells.
* `ConnectFailure.text_eq_text_iff`, `Fault.text_cancelled_inj`: what the words of the two faults tell.
* `failures_unambiguous`: both together.
-/
namespace OracleIntake

namespace Progress
variable {p q : Progress}

theorem eq_iff : p = q ↔ p.attempts = q.attempts ∧ p.plainTried = q.plainTried ∧ p.portTried = q.portTried := by
  cases p
  cases q
  simp

theorem toList_fallbacks (p : Progress) : p.fallbacks.toList =
    match p.plainTried, p.portTried with
    | false, none => "none".toList
    | true, none => "plain transport".toList
    | false, some port => "port ".toList ++ Nat.toDigits 10 port.toNat
    | true, some port => "plain transport".toList ++ ", port ".toList ++ Nat.toDigits 10 port.toNat := by
  rcases p with ⟨attempts, plain, _ | port⟩ <;> cases plain
  · rfl
  · rfl
  · simp [fallbacks]
  · simp [fallbacks]

/-- The list tells the fallbacks: the transport stands at its beginning, the port at its end. -/
theorem fallbacks_inj : p.fallbacks = q.fallbacks ↔ p.plainTried = q.plainTried ∧ p.portTried = q.portTried := by
  refine ⟨fun h => ?_, fun ⟨hplain, hport⟩ => by rw [fallbacks, hplain, hport, fallbacks]⟩
  rw [← String.toList_inj, toList_fallbacks, toList_fallbacks] at h
  rcases p with ⟨attempts, _ | _, _ | port⟩ <;> rcases q with ⟨attempts', _ | _, _ | port'⟩ <;>
    simp_all [Text.toDigits_inj, UInt16.toNat_inj]

theorem not_mem_fallbacks (p : Progress) : ')' ∉ p.fallbacks.toList := by
  have hport := Text.not_mem_toDigits (d := ')') rfl
  rw [toList_fallbacks]
  split <;> simp [hport]

end Progress

namespace FailureKind

theorem text_inj {a b : FailureKind} : a.text.toList = b.text.toList ↔ a = b := by
  cases a <;> cases b <;> decide

theorem not_mem_text (kind : FailureKind) : ':' ∉ kind.text.toList := by
  cases kind <;> decide

end FailureKind

theorem DriverFailure.toList_text (f : DriverFailure) :
    f.text.toList = f.kind.text.toList ++ ':' :: ' ' :: f.message.toList := by
  simp [text]

/-- The words of a driver's failure tell everything but the vendor's number. -/
theorem DriverFailure.text_eq_text_iff {f g : DriverFailure} :
    f.text = g.text ↔ f.kind = g.kind ∧ f.message = g.message := by
  rw [← String.toList_inj, toList_text, toList_text,
    Text.append_cons_inj f.kind.not_mem_text g.kind.not_mem_text, FailureKind.text_inj, List.cons_inj_right,
    String.toList_inj]

namespace ConnectFailure
variable {f g : ConnectFailure}

theorem text_eq (f : ConnectFailure) : f.text = "failed after " ++ toString f.progress.attempts ++ " attempt" ++
    (if f.progress.attempts = 1 then "" else "s") ++ " (fallbacks tried: " ++ f.progress.fallbacks ++ "): " ++
    f.last.text := rfl

theorem toList_text (f : ConnectFailure) : f.text.toList = "failed after ".toList ++
    (Nat.toDigits 10 f.progress.attempts ++ ' ' :: ("attempt".toList ++
      ((if f.progress.attempts = 1 then "" else "s").toList ++ (" (fallbacks tried: ".toList ++
        (f.progress.fallbacks.toList ++ ')' :: ':' :: ' ' :: f.last.text.toList))))) := by
  have hattempt : " attempt".toList = ' ' :: "attempt".toList := by decide
  have hclose : "): ".toList = [')', ':', ' '] := by decide
  simp only [text_eq, String.toList_append, Text.toList_toString, hattempt, hclose, List.append_assoc,
    List.cons_append, List.nil_append]

theorem text_eq_text_iff : f.text = g.text ↔ f.progress = g.progress ∧ f.last.text = g.last.text := by
  refine ⟨fun h => ?_, fun ⟨hprogress, hlast⟩ => by rw [text_eq, text_eq, hprogress, hlast]⟩
  have hspace := Text.not_mem_toDigits (d := ' ') rfl
  rw [← String.toList_inj, toList_text, toList_text, List.append_right_inj,
    Text.append_cons_inj (hspace _) (hspace _), Text.toDigits_inj] at h
  obtain ⟨hattempts, hrest⟩ := h
  rw [hattempts, List.append_right_inj, List.append_right_inj, List.append_right_inj,
    Text.append_cons_inj f.progress.not_mem_fallbacks g.progress.not_mem_fallbacks, String.toList_inj,
    Progress.fallbacks_inj, List.cons_inj_right, List.cons_inj_right, String.toList_inj] at hrest
  exact ⟨Progress.eq_iff.2 ⟨hattempts, hrest.1⟩, hrest.2⟩

end ConnectFailure

namespace Fault
variable {p q : Progress}

theorem text_cancelled (p : Progress) : (cancelled p).text = "connect cancelled after " ++ toString p.attempts ++
    " attempts started (fallbacks tried: " ++ p.fallbacks ++ ")" := rfl

theorem toList_text_cancelled (p : Progress) : (cancelled p).text.toList = "connect cancelled after ".toList ++
    (Nat.toDigits 10 p.attempts ++ ' ' :: ("attempts started (fallbacks tried: ".toList ++
      (p.fallbacks.toList ++ [')']))) := by
  simp only [text_cancelled, String.toList_append, Text.toList_toString, List.append_assoc]
  rfl

theorem text_cancelled_inj : (cancelled p).text = (cancelled q).text ↔ p = q := by
  have hspace := Text.not_mem_toDigits (d := ' ') rfl
  rw [← String.toList_inj, toList_text_cancelled, toList_text_cancelled, List.append_right_inj,
    Text.append_cons_inj (hspace _) (hspace _), Text.toDigits_inj, List.append_right_inj, List.append_left_inj,
    String.toList_inj, Progress.fallbacks_inj, Progress.eq_iff]

end Fault

/-- The words of failed cycles, and those of cycles that were given up, are told apart as far as the cycles differ. -/
theorem failures_unambiguous :
    (∀ f g : ConnectFailure, f.text = g.text ↔
      f.progress.attempts = g.progress.attempts ∧ f.progress.plainTried = g.progress.plainTried ∧
        f.progress.portTried = g.progress.portTried ∧ f.last.kind = g.last.kind ∧ f.last.message = g.last.message) ∧
    ∀ p q : Progress, (Fault.cancelled p).text = (Fault.cancelled q).text ↔
      p.attempts = q.attempts ∧ p.plainTried = q.plainTried ∧ p.portTried = q.portTried := by
  refine ⟨fun f g => ?_, fun p q => ?_⟩
  · rw [ConnectFailure.text_eq_text_iff, DriverFailure.text_eq_text_iff, Progress.eq_iff, and_assoc, and_assoc]
  · rw [Fault.text_cancelled_inj, Progress.eq_iff]

end OracleIntake
