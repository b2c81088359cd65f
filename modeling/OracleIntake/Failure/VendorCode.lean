import OracleIntake.Failure.Kind

/-!
# Vendor codes

Messages carry numbers behind `ORA-` and `DPI-`. The number behind the first `ORA-` decides the kind of a
failure while it is listed; a message without a listed number stays without a kind, so that its wording may
still tell one.
-/
namespace OracleIntake.VendorCode

def listenerCodes : List Nat := [12170, 12505, 12514, 12528, 12535, 12541, 12543, 12545]

def transportCodes : List Nat :=
  [28759, 28860, 28862, 28864, 29002, 29003, 29019, 29024, 29039, 29040]

def authenticationCodes : List Nat := [1005, 1017, 1045, 28000, 28001]

def sessionLostCodes : List Nat := [28, 1012, 1092, 2396, 3113, 3114, 3135]

/-- Numbers behind `DPI-` of a session that is no longer usable. -/
def clientSessionLostCodes : List Nat := [1010, 1080]

/-- The number written right behind the first `mark` of a message, if it has at most 31 bits. -/
def after? (mark message : String) : Option Nat := do
  let rest ← Text.after? mark.toList message.toList
  let digits := rest.takeWhile Char.isDigit
  if digits.isEmpty then none
  else some (Nat.ofDigitChars 10 digits 0) |>.filter (· < 2147483648)

/-- The first number behind `ORA-`. -/
def server? (message : String) : Option Nat := after? "ORA-" message

/-- The first number behind `DPI-`. -/
def client? (message : String) : Option Nat := after? "DPI-" message

/-- The kind of a failure to open a session with this number. -/
def connectKind (code : Nat) : FailureKind :=
  if code ∈ listenerCodes then .listener
  else if code ∈ transportCodes then .transport
  else if code ∈ authenticationCodes then .authentication
  else if code ∈ sessionLostCodes then .sessionLost
  else .unclassified

def connectFailure (message : String) : DriverFailure :=
  match server? message with
  | none => { kind := .unclassified, message }
  | some code => { kind := connectKind code, code := some code, message }

def statementKind (message : String) : FailureKind :=
  if (server? message).any (· ∈ sessionLostCodes) then .sessionLost
  else if (client? message).any (· ∈ clientSessionLostCodes) then .sessionLost
  else if (server? message).isSome then .statement
  else .unclassified

/-- A failure of a statement on an open session. -/
def statementFailure (message : String) : DriverFailure :=
  { kind := statementKind message, code := (server? message).map Int.ofNat, message }

end OracleIntake.VendorCode
