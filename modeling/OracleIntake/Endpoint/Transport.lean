import OracleIntake.Text.Blank
import OracleIntake.Text.Case

/-!
# Transports

A session runs over an encrypted transport or over a plain one.
-/
namespace OracleIntake

inductive Transport where
  | secure
  | plain
  deriving DecidableEq, Repr, Inhabited

namespace Transport

/-- The transport's name in connect descriptors. -/
def protocol : Transport → String
  | secure => "tcps"
  | plain => "tcp"

/-- The transport's name in reports. -/
def text : Transport → String
  | secure => "secure"
  | plain => "plain"

def isSecure : Transport → Bool
  | secure => true
  | plain => false

def secureWords : List String := ["tcps", "secure", "ssl", "tls"]

def plainWords : List String := ["tcp", "plain", "none"]

/-- Reads a transport's name in any case, with blanks around it or not. -/
def read? (s : String) : Option Transport :=
  let word := Text.lowered (Text.trimmed s)
  if word ∈ secureWords then some secure
  else if word ∈ plainWords then some plain
  else none

end Transport
end OracleIntake
