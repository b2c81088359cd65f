import OracleIntake.Text.Case
import OracleIntake.Text.Search

/-!
# Kinds of failure

What went wrong between the program and the database, and the last resort for a message without a kind: the
markers that its text contains. A lost session is told first, then refused credentials, then a broken secure
transport, then a listener that does not answer.
-/
namespace OracleIntake

inductive FailureKind where
  /-- The secure transport could not be set up. -/
  | transport
  /-- Nothing listens, or the listener refuses. -/
  | listener
  /-- The credentials are refused. -/
  | authentication
  /-- An open session broke. -/
  | sessionLost
  /-- The statement failed, and the session is still good. -/
  | statement
  | unclassified
  deriving DecidableEq, Repr

namespace FailureKind

def text : FailureKind → String
  | transport => "transport failure"
  | listener => "listener failure"
  | authentication => "authentication failure"
  | sessionLost => "session lost"
  | statement => "statement failure"
  | unclassified => "driver error"

/-- Texts in lower case that tell a broken secure transport. -/
def transportMarkers : List String :=
  ["ssl", "tls", "handshake", "certificate", "wallet", "tcps", "ora-29024", "ora-28860", "ora-28759"]

/-- Texts in lower case that tell a listener that does not answer. -/
def listenerMarkers : List String :=
  ["no listener", "listener", "connection refused", "refused", "could not resolve", "timed out", "timeout",
    "unreachable", "ora-12541", "ora-12170"]

/-- Texts in lower case that tell a lost session. -/
def sessionMarkers : List String :=
  ["end-of-file on communication channel", "not connected to oracle", "broken pipe", "connection reset",
    "ora-03113", "ora-03114"]

/-- Texts in lower case that tell refused credentials. -/
def authenticationMarkers : List String :=
  ["invalid username/password", "logon denied", "account is locked", "ora-01017", "ora-28000"]

def marked (markers : List String) (text : List Char) : Bool :=
  markers.any fun m => Text.occursIn m.toList text

/-- The kind that the markers in a message tell. -/
def ofMessage (message : String) : FailureKind :=
  let text := Text.lower message.toList
  if marked sessionMarkers text then sessionLost
  else if marked authenticationMarkers text then authentication
  else if marked transportMarkers text then transport
  else if marked listenerMarkers text then listener
  else unclassified

end FailureKind

structure DriverFailure where
  kind : FailureKind
  /-- The vendor's number of the error, if it is known. -/
  code : Option Int := none
  message : String
  deriving DecidableEq, Repr

namespace DriverFailure

/-- The kind that counts: the driver's own, or what the message tells if the driver gives none. -/
def effectiveKind (f : DriverFailure) : FailureKind :=
  match f.kind with
  | .unclassified => .ofMessage f.message
  | kind => kind

theorem effectiveKind_of_classified {f : DriverFailure} (h : f.kind ≠ .unclassified) :
    f.effectiveKind = f.kind := by
  unfold effectiveKind
  split
  · next hkind => exact absurd hkind h
  · rfl

theorem effectiveKind_of_unclassified {f : DriverFailure} (h : f.kind = .unclassified) :
    f.effectiveKind = .ofMessage f.message := by
  rw [effectiveKind, h]

/-- The kind and the message. -/
def text (f : DriverFailure) : String := f.kind.text ++ ": " ++ f.message

end DriverFailure
end OracleIntake
