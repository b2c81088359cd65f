import OracleIntake.Connection.State

/-!
# What the failures of a cycle amount to

A connect cycle changes its endpoint and its notes from failure to failure. Told by the failures alone:
the cycle is over plain transport once it was secure and some failure was one of the transport, and it is at
the fallback port once there is another port to go to and some failure was one of the listener. The order of
the failures and how often a kind occurs do not matter, and nothing is taken back.

* `fallBack_midCycle`: one step of a cycle adds one failure to what it has met.
-/
namespace OracleIntake

/-- The endpoint as the fallbacks that are noted have changed it. -/
def Target.fallenBack (t : Target) (p : Progress) : Target :=
  { t with
    transport := if p.plainTried then .plain else t.transport
    verify := if p.plainTried then false else t.verify
    port := p.portTried.getD t.port }

namespace Settings
variable (s : Settings) (fs : List DriverFailure)

/-- The port that a cycle can go over to. -/
def otherPort : Option UInt16 := s.fallbackPort.filter (· ≠ s.target.port)

/-- After these failures a cycle is over plain transport that began over secure transport. -/
def plainAfter : Bool := s.target.transport.isSecure && fs.any (·.effectiveKind = .transport)

/-- The port that a cycle has gone over to after these failures. -/
def portAfter : Option UInt16 := if fs.any (·.effectiveKind = .listener) then s.otherPort else none

/-- The notes of a cycle after these failures, with `n` attempts started. -/
def progressAfter (n : Nat) : Progress := ⟨n, s.plainAfter fs, s.portAfter fs⟩

/-- The endpoint of the attempt after these failures. -/
def targetAfter : Target :=
  { s.target with
    transport := if s.plainAfter fs then .plain else s.target.transport
    verify := if s.plainAfter fs then false else s.target.verify
    port := (s.portAfter fs).getD s.target.port }

/-- The connection in a cycle that has met these failures, with `n` attempts started. -/
def midCycle (n : Nat) : Connection :=
  { settings := s, lifecycle := .connecting, progress := s.progressAfter fs n }

theorem targetAfter_eq (n : Nat) : s.targetAfter fs = s.target.fallenBack (s.progressAfter fs n) := rfl

theorem targetAfter_nil : s.targetAfter [] = s.target := by
  simp [targetAfter, plainAfter, portAfter]

theorem begun_eq_midCycle (c : Connection) : c.begun = c.settings.midCycle [] 0 := by
  simp [Connection.begun, midCycle, progressAfter, plainAfter, portAfter]

theorem attempted_midCycle (n : Nat) : (s.midCycle fs n).attempted = s.midCycle fs (n + 1) := rfl

theorem abandoned_midCycle (n : Nat) :
    (s.midCycle fs n).abandoned = (s.midCycle fs n).broken (.cancelled (s.progressAfter fs n)) := by
  simp [Connection.abandoned, midCycle]

/-- The notes change only with a failure that a fallback answers. -/
theorem midCycle_snoc_of_kind (f : DriverFailure) (n : Nat) (ht : f.effectiveKind ≠ .transport)
    (hl : f.effectiveKind ≠ .listener) :
    s.midCycle (fs ++ [f]) n = s.midCycle fs n ∧ s.targetAfter (fs ++ [f]) = s.targetAfter fs := by
  have hp : s.plainAfter (fs ++ [f]) = s.plainAfter fs := by simp [plainAfter, ht]
  have hq : s.portAfter (fs ++ [f]) = s.portAfter fs := by simp [portAfter, hl]
  simp [midCycle, progressAfter, targetAfter, hp, hq]

/-- After a transport failure a secure endpoint is over plain transport, if it was not so before. -/
theorem midCycle_snoc_transport (f : DriverFailure) (n : Nat) (hf : f.effectiveKind = .transport) :
    (s.midCycle fs n).fallBack (s.targetAfter fs) f =
      (s.midCycle (fs ++ [f]) n, s.targetAfter (fs ++ [f])) := by
  have hq : s.portAfter (fs ++ [f]) = s.portAfter fs := by simp [portAfter, hf]
  have hp : s.plainAfter (fs ++ [f]) = s.target.transport.isSecure := by simp [plainAfter, hf]
  cases hs : s.target.transport with
  | plain =>
    have hp' : s.plainAfter fs = false := by simp [plainAfter, hs, Transport.isSecure]
    simp [Connection.fallBack, hf, midCycle, progressAfter, targetAfter, hp, hp', hq, hs, Transport.isSecure]
  | secure =>
    cases hp' : s.plainAfter fs <;>
      simp [Connection.fallBack, hf, midCycle, progressAfter, targetAfter, Target.overPlain, hp, hp', hq, hs,
        Transport.isSecure]

/-- After a listener failure the endpoint is at the fallback port, if there is one to go to. -/
theorem midCycle_snoc_listener (f : DriverFailure) (n : Nat) (hf : f.effectiveKind = .listener) :
    (s.midCycle fs n).fallBack (s.targetAfter fs) f =
      (s.midCycle (fs ++ [f]) n, s.targetAfter (fs ++ [f])) := by
  have hp : s.plainAfter (fs ++ [f]) = s.plainAfter fs := by simp [plainAfter, hf]
  have hq : s.portAfter (fs ++ [f]) = s.otherPort := by simp [portAfter, hf]
  cases hport : s.fallbackPort with
  | none =>
    have ho : s.otherPort = none := by simp [otherPort, hport]
    have hq' : s.portAfter fs = none := by simp [portAfter, ho]
    simp [Connection.fallBack, hf, midCycle, progressAfter, targetAfter, hp, hq, ho, hq', hport]
  | some port =>
    by_cases hne : port = s.target.port
    · have ho : s.otherPort = none := by simp [otherPort, hport, hne, Option.filter]
      have hq' : s.portAfter fs = none := by simp [portAfter, ho]
      simp [Connection.fallBack, hf, midCycle, progressAfter, targetAfter, hp, hq, ho, hq', hport, hne]
    · have ho : s.otherPort = some port := by simp [otherPort, hport, hne, Option.filter]
      cases hany : fs.any (·.effectiveKind = .listener) with
      | true =>
        have hq' : s.portAfter fs = some port := by rw [portAfter, if_pos hany, ho]
        simp [Connection.fallBack, hf, midCycle, progressAfter, targetAfter, hp, hq, ho, hq']
      | false =>
        have hq' : s.portAfter fs = none := by rw [portAfter, hany]; rfl
        simp [Connection.fallBack, hf, midCycle, progressAfter, targetAfter, Target.atPort, hp, hq, ho, hq',
          hport, hne]

/-- **One step.** The fallback that a failure calls for adds it to what the cycle has met. -/
theorem fallBack_midCycle (f : DriverFailure) (n : Nat) :
    (s.midCycle fs n).fallBack (s.targetAfter fs) f =
      (s.midCycle (fs ++ [f]) n, s.targetAfter (fs ++ [f])) := by
  by_cases ht : f.effectiveKind = .transport
  · exact s.midCycle_snoc_transport fs f n ht
  by_cases hl : f.effectiveKind = .listener
  · exact s.midCycle_snoc_listener fs f n hl
  obtain ⟨hm, htgt⟩ := s.midCycle_snoc_of_kind fs f n ht hl
  rw [hm, htgt]
  unfold Connection.fallBack
  split
  · exact absurd ‹_› ht
  · exact absurd ‹_› hl
  · rfl

end Settings
end OracleIntake
