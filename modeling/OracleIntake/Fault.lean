import OracleIntake.Duration
import OracleIntake.Failure.Kind
import OracleIntake.Settings.Fault

/-!
# Faults

Everything that an operation can end with instead of a result, sorted into categories. Only a connection
fault can be cured by trying again; only a query fault can say that it cost the session.
-/
namespace OracleIntake

/-- What a connect cycle has done so far. -/
structure Progress where
  /-- The attempts started. -/
  attempts : Nat := 0
  /-- The cycle went over to plain transport. -/
  plainTried : Bool := false
  /-- The port that the cycle went over to. -/
  portTried : Option UInt16 := none
  deriving DecidableEq, Repr, Inhabited

namespace Progress

def fallbacks (p : Progress) : String :=
  let plain := if p.plainTried then ["plain transport"] else []
  let port := p.portTried.toList.map fun n => "port " ++ toString n.toNat
  if (plain ++ port).isEmpty then "none" else ", ".intercalate (plain ++ port)

def anyFallback (p : Progress) : Bool := p.plainTried || p.portTried.isSome

end Progress

/-- A cycle whose attempts all failed, with the failure of the last. -/
structure ConnectFailure where
  progress : Progress
  last : DriverFailure
  deriving DecidableEq, Repr

def ConnectFailure.text (f : ConnectFailure) : String :=
  "failed after " ++ toString f.progress.attempts ++ " attempt" ++
    (if f.progress.attempts = 1 then "" else "s") ++
    " (fallbacks tried: " ++ f.progress.fallbacks ++ "): " ++ f.last.text

/-- What an operation ends with instead of a result. -/
inductive Fault where
  | settings (reason : SettingsFault)
  | missingKey (key : String)
  | connection (failure : ConnectFailure)
  | notConnected
  /-- A statement failed; `fatal` says that the session is gone. -/
  | query (message : String) (sql : Option String) (fatal : Bool)
  /-- The caller's deadline passed during a cycle. -/
  | timeout (elapsed : Duration) (progress : Progress)
  /-- The caller gave up a cycle. -/
  | cancelled (progress : Progress)
  deriving DecidableEq, Repr

inductive FaultCategory where
  | configuration | connection | notConnected | query | timeout | cancelled
  deriving DecidableEq, Repr

/-- Trying again may help. -/
def FaultCategory.isRetriable : FaultCategory → Bool
  | connection => true
  | _ => false

namespace Fault

def category : Fault → FaultCategory
  | settings _ | missingKey _ => .configuration
  | connection _ => .connection
  | notConnected => .notConnected
  | query .. => .query
  | timeout .. => .timeout
  | cancelled _ => .cancelled

def isRetriable (f : Fault) : Bool := f.category.isRetriable

/-- The fault cost the session. -/
def isFatal : Fault → Bool
  | query _ _ fatal => fatal
  | _ => false

def ofStatement (failure : DriverFailure) (sql : String) (fatal : Bool) : Fault :=
  query failure.text (some sql) fatal

/-- The fault in words, with measured times written by `span`. -/
def textWith (span : Duration → String) : Fault → String
  | settings reason => "configuration error: " ++ reason.text
  | missingKey key => "missing required configuration key `" ++ key ++ "`"
  | connection failure => "connection error: " ++ failure.text
  | notConnected => "not connected: call connect() before issuing statements"
  | query message _ _ => "query error: " ++ message
  | timeout elapsed p =>
    "connect timed out after " ++ span elapsed ++ " (" ++ toString p.attempts ++
      " attempts started, fallbacks tried: " ++ p.fallbacks ++ ")"
  | cancelled p =>
    "connect cancelled after " ++ toString p.attempts ++ " attempts started (fallbacks tried: " ++
      p.fallbacks ++ ")"

def text (f : Fault) : String := f.textWith Duration.text

end Fault
end OracleIntake
