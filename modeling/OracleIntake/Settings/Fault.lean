import OracleIntake.Endpoint.Transport

/-!
# Faults in settings

Why settings are refused, and the wording of each reason.
-/
namespace OracleIntake

inductive SettingsFault where
  | blank (field : String)
  | negativeRetries (count : Int)
  | tooManyRetries (count : Int)
  | zeroPort
  | notPort (key text : String)
  | notTransport (key text : String)
  | notSwitch (key text : String)
  | notSeconds (key text : String)
  | notInteger (key : String)
  | notBackoff (key text : String)
  /-- A line of a settings file without an equals sign. -/
  | noPair (line : Nat)
  /-- A line of a settings file with nothing before its equals sign. -/
  | noKey (line : Nat)
  | unreadable (path reason : String)
  /-- No driver is built in. -/
  | noDriver
  /-- A reason in the caller's words. -/
  | stated (message : String)
  deriving DecidableEq, Repr

namespace SettingsFault

def text : SettingsFault → String
  | blank field => field ++ " must not be empty"
  | negativeRetries n => "retry count must be >= 0, got " ++ toString n
  | tooManyRetries n => "retry count " ++ toString n ++ " is too large"
  | zeroPort => "port must be non-zero"
  | notPort key s => key ++ " must be a port number between 1 and 65535; got `" ++ s ++ "`"
  | notTransport key s => key ++ " must be one of tcps, tcp, secure, plain; got `" ++ s ++ "`"
  | notSwitch key s => key ++ " must be a boolean; got `" ++ s ++ "`"
  | notSeconds key s => key ++ " must be a non-negative number of seconds; got `" ++ s ++ "`"
  | notInteger key => key ++ " must be an integer"
  | notBackoff key s => key ++ " must be linear or exponential; got `" ++ s ++ "`"
  | noPair line => "line " ++ toString line ++ ": expected KEY=VALUE"
  | noKey line => "line " ++ toString line ++ ": empty key"
  | unreadable path reason => "cannot read " ++ path ++ ": " ++ reason
  | noDriver => "no database driver available: rebuild with `--features oracle`"
  | stated message => message

end SettingsFault
end OracleIntake
