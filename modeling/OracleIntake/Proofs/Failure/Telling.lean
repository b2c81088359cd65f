import OracleIntake.Failure.VendorCode

/-!
# What tells the kind of a failure

The kind of a failure to open a session is told by the first code in its message if that code is listed, whatever
the message says besides; only if it is not, by the markers that occur in the message. That a failed statement lost
the session is told by the codes, too, and by the markers only where the server gave no code.

* `effectiveKind_of_listed`, `effectiveKind_of_unlisted`: the two ways to a kind.
* `effectiveKind_eq_transport_iff`, `effectiveKind_eq_listener_iff`: which messages tell the two kinds that a
  fallback answers.
* `effectiveKind_statementFailure_iff`: which messages of failed statements tell that the session is lost.
-/
namespace OracleIntake

namespace FailureKind
variable {message : String}

/-- The message contains one of the markers, once it is in lower case. -/
def Says (markers : List String) (message : String) : Prop :=
  ∃ marker ∈ markers, marker.toList <:+: Text.lower message.toList

theorem marked_iff {markers : List String} :
    marked markers (Text.lower message.toList) = true ↔ Says markers message := by
  simp [marked, Says, Text.occursIn_iff]

theorem ofMessage_eq_transport_iff :
    ofMessage message = transport ↔ Says transportMarkers message ∧ ¬ Says sessionMarkers message ∧
      ¬ Says authenticationMarkers message := by
  simp only [← marked_iff, ofMessage]
  cases marked sessionMarkers (Text.lower message.toList) <;>
    cases marked authenticationMarkers (Text.lower message.toList) <;>
    cases marked transportMarkers (Text.lower message.toList) <;>
    cases marked listenerMarkers (Text.lower message.toList) <;> simp

theorem ofMessage_eq_listener_iff :
    ofMessage message = listener ↔ Says listenerMarkers message ∧ ¬ Says sessionMarkers message ∧
      ¬ Says authenticationMarkers message ∧ ¬ Says transportMarkers message := by
  simp only [← marked_iff, ofMessage]
  cases marked sessionMarkers (Text.lower message.toList) <;>
    cases marked authenticationMarkers (Text.lower message.toList) <;>
    cases marked transportMarkers (Text.lower message.toList) <;>
    cases marked listenerMarkers (Text.lower message.toList) <;> simp

theorem ofMessage_eq_sessionLost_iff : ofMessage message = sessionLost ↔ Says sessionMarkers message := by
  simp only [← marked_iff, ofMessage]
  cases marked sessionMarkers (Text.lower message.toList) <;>
    cases marked authenticationMarkers (Text.lower message.toList) <;>
    cases marked transportMarkers (Text.lower message.toList) <;>
    cases marked listenerMarkers (Text.lower message.toList) <;> simp

end FailureKind

namespace VendorCode
open FailureKind
variable {message : String} {code : Nat}

/-- The codes that are listed, by the kind of failure that they stand for. -/
def tables : List (FailureKind × List Nat) :=
  [(.listener, listenerCodes), (.transport, transportCodes), (.authentication, authenticationCodes),
    (.sessionLost, sessionLostCodes)]

/-- The message has no first code, or one that no table lists. -/
def Unlisted (message : String) : Prop := ∀ code, server? message = some code → ∀ entry ∈ tables, code ∉ entry.2

/-- No code is in two tables, so that the order of the tables plays no part. -/
theorem connectKind_of_mem {entry : FailureKind × List Nat} (hentry : entry ∈ tables) (hcode : code ∈ entry.2) :
    connectKind code = entry.1 := by
  have hall : ∀ entry ∈ tables, ∀ code ∈ entry.2, connectKind code = entry.1 := by decide
  exact hall entry hentry code hcode

theorem connectKind_of_not_mem (h : ∀ entry ∈ tables, code ∉ entry.2) : connectKind code = .unclassified := by
  have hlistener := h _ (show (.listener, listenerCodes) ∈ tables by decide)
  have htransport := h _ (show (.transport, transportCodes) ∈ tables by decide)
  have hauthentication := h _ (show (.authentication, authenticationCodes) ∈ tables by decide)
  have hlost := h _ (show (.sessionLost, sessionLostCodes) ∈ tables by decide)
  rw [connectKind, if_neg hlistener, if_neg htransport, if_neg hauthentication, if_neg hlost]

theorem connectFailure_of_code (h : server? message = some code) :
    connectFailure message = { kind := connectKind code, code := some code, message } := by
  rw [connectFailure, h]

theorem effectiveKind_of_listed (hcode : server? message = some code) {entry : FailureKind × List Nat}
    (hentry : entry ∈ tables) (hmem : code ∈ entry.2) : (connectFailure message).effectiveKind = entry.1 := by
  have hclassified : ∀ entry ∈ tables, entry.1 ≠ .unclassified := by decide
  have hkind := connectKind_of_mem hentry hmem
  rw [connectFailure_of_code hcode, hkind]
  exact DriverFailure.effectiveKind_of_classified (hclassified entry hentry)

theorem effectiveKind_of_unlisted (h : Unlisted message) :
    (connectFailure message).effectiveKind = .ofMessage message := by
  cases hcode : server? message with
  | none =>
    rw [connectFailure, hcode]
    exact DriverFailure.effectiveKind_of_unclassified rfl
  | some code =>
    rw [connectFailure_of_code hcode, connectKind_of_not_mem (h code hcode)]
    exact DriverFailure.effectiveKind_of_unclassified rfl

/-- The kind of one of the tables is told by a code of that table, or by a message without a listed code that
tells it. -/
theorem effectiveKind_eq_iff {entry : FailureKind × List Nat} (hentry : entry ∈ tables) :
    (connectFailure message).effectiveKind = entry.1 ↔
      (∃ code ∈ entry.2, server? message = some code) ∨ Unlisted message ∧ ofMessage message = entry.1 := by
  have hkinds : ∀ entry ∈ tables, ∀ entry' ∈ tables, entry.1 = entry'.1 → entry = entry' := by decide
  by_cases hunlisted : Unlisted message
  · rw [effectiveKind_of_unlisted hunlisted]
    constructor
    · exact fun h => .inr ⟨hunlisted, h⟩
    · rintro (⟨code, hmem, hcode⟩ | ⟨-, h⟩)
      · exact absurd hmem (hunlisted code hcode entry hentry)
      · exact h
  · obtain ⟨code, hcode, other, hother, hmem⟩ :
        ∃ code, server? message = some code ∧ ∃ other ∈ tables, code ∈ other.2 := by
      simpa [Unlisted] using hunlisted
    rw [effectiveKind_of_listed hcode hother hmem]
    constructor
    · intro h
      rw [← hkinds other hother entry hentry h]
      exact .inl ⟨code, hmem, hcode⟩
    · rintro (⟨code', hmem', hcode'⟩ | ⟨h, -⟩)
      · cases hcode.symm.trans hcode'
        rw [← connectKind_of_mem hother hmem, connectKind_of_mem hentry hmem']
      · exact absurd h hunlisted

/-- A kind is told: the first code is one of these, or no first code is listed and the message contains one of the
markers and none of those that go before. -/
def Tells (codes : List Nat) (markers : List String) (before : List (List String)) (message : String) : Prop :=
  (∃ code ∈ codes, server? message = some code) ∨
    Unlisted message ∧ Says markers message ∧ ∀ others ∈ before, ¬ Says others message

def TellsTransport : String → Prop :=
  Tells transportCodes transportMarkers [sessionMarkers, authenticationMarkers]

def TellsListener : String → Prop :=
  Tells listenerCodes listenerMarkers [sessionMarkers, authenticationMarkers, transportMarkers]

theorem effectiveKind_eq_transport_iff :
    (connectFailure message).effectiveKind = .transport ↔ TellsTransport message := by
  rw [effectiveKind_eq_iff (show (.transport, transportCodes) ∈ tables by decide), ofMessage_eq_transport_iff]
  simp [TellsTransport, Tells]

theorem effectiveKind_eq_listener_iff :
    (connectFailure message).effectiveKind = .listener ↔ TellsListener message := by
  rw [effectiveKind_eq_iff (show (.listener, listenerCodes) ∈ tables by decide), ofMessage_eq_listener_iff]
  simp [TellsListener, Tells]

/-- The code of a failure decides its kind before its words. -/
structure CodesDecide : Prop where
  /-- A first code that is listed decides, whatever the message says. -/
  listed : ∀ message code, server? message = some code → ∀ entry ∈ tables, code ∈ entry.2 →
    (connectFailure message).effectiveKind = entry.1
  /-- Two messages with the same listed code are of the same kind. -/
  alike : ∀ message message' code, server? message = some code → server? message' = some code →
    (∃ entry ∈ tables, code ∈ entry.2) →
    (connectFailure message).effectiveKind = (connectFailure message').effectiveKind
  /-- Otherwise the words decide. -/
  unlisted : ∀ message, Unlisted message → (connectFailure message).effectiveKind = .ofMessage message

theorem codesDecide : CodesDecide where
  listed _ _ hcode _ hentry hmem := effectiveKind_of_listed hcode hentry hmem
  alike _ _ _ hcode hcode' := fun ⟨_, hentry, hmem⟩ =>
    (effectiveKind_of_listed hcode hentry hmem).trans (effectiveKind_of_listed hcode' hentry hmem).symm
  unlisted _ := effectiveKind_of_unlisted

/-! ## Failed statements -/

/-- The message of a failed statement tells that the session is lost: by the first code of the server, by the
first code of the client, or, where it has no code of the server, by its wording. -/
def TellsSessionLoss (message : String) : Prop :=
  (∃ code ∈ sessionLostCodes, server? message = some code) ∨
    (client? message = some 1010 ∨ client? message = some 1080) ∨
    server? message = none ∧ Says sessionMarkers message

/-- A session that one of the codes tells to be lost is lost. -/
theorem statementKind_eq_sessionLost_iff :
    statementKind message = .sessionLost ↔ (∃ code ∈ sessionLostCodes, server? message = some code) ∨
      client? message = some 1010 ∨ client? message = some 1080 := by
  have hserver : (server? message).any (· ∈ sessionLostCodes) = true ↔
      ∃ code ∈ sessionLostCodes, server? message = some code := by
    simp [Option.any_eq_true, and_comm]
  have hclient : (client? message).any (· ∈ clientSessionLostCodes) = true ↔
      client? message = some 1010 ∨ client? message = some 1080 := by
    simp [Option.any_eq_true, clientSessionLostCodes, and_or_left, exists_or]
  rw [← hserver, ← hclient, statementKind]
  cases (server? message).any (· ∈ sessionLostCodes) <;>
    cases (client? message).any (· ∈ clientSessionLostCodes) <;>
    cases (server? message).isSome <;> simp

/-- A message without a code that tells a loss has no kind of its own exactly if it has no code of the server. -/
theorem statementKind_eq_unclassified_iff (h : statementKind message ≠ .sessionLost) :
    statementKind message = .unclassified ↔ server? message = none := by
  unfold statementKind at h ⊢
  split at h
  · exact absurd rfl h
  split at h
  · exact absurd rfl h
  rename_i hserver hclient
  rw [if_neg hserver, if_neg hclient]
  cases server? message <;> simp

theorem effectiveKind_statementFailure_iff :
    (statementFailure message).effectiveKind = .sessionLost ↔ TellsSessionLoss message := by
  rw [TellsSessionLoss, ← or_assoc, ← statementKind_eq_sessionLost_iff]
  by_cases hlost : statementKind message = .sessionLost
  · have hkind := DriverFailure.effectiveKind_of_classified (f := statementFailure message)
      (by rw [statementFailure, hlost]; nofun)
    exact iff_of_true (hkind.trans hlost) (.inl hlost)
  · rw [or_iff_right hlost, ← statementKind_eq_unclassified_iff hlost, ← ofMessage_eq_sessionLost_iff]
    by_cases hunclassified : statementKind message = .unclassified
    · rw [DriverFailure.effectiveKind_of_unclassified (f := statementFailure message) hunclassified]
      exact (and_iff_right hunclassified).symm
    · rw [DriverFailure.effectiveKind_of_classified (f := statementFailure message) hunclassified]
      exact iff_of_false hlost fun h => hunclassified h.1

/-- A code of the server that is not listed speaks for the session, whatever else the message says, unless the
client tells that it is lost. -/
theorem not_tellsSessionLoss (hcode : server? message = some code) (hlisted : code ∉ sessionLostCodes)
    (hunconnected : client? message ≠ some 1010) (hclosed : client? message ≠ some 1080) :
    ¬ TellsSessionLoss message := by
  rintro (⟨code', hmem, hcode'⟩ | (h | h) | ⟨hnone, -⟩)
  · cases hcode.symm.trans hcode'
    exact hlisted hmem
  · exact hunconnected h
  · exact hclosed h
  · cases hcode.symm.trans hnone

end VendorCode
end OracleIntake
