import OracleIntake.Json.Basic
import OracleIntake.Number.Shortest

/-!
# Writing JSON texts

One line without white space; an object writes its members once each in ascending order of keys. A double is
written with its shortest digits and always with a point or a power of ten, so that it is never taken for an
integer literal.
-/
namespace OracleIntake.Json

def writeChar (c : Char) : List Char :=
  match c with
  | '"' => ['\\', '"']
  | '\\' => ['\\', '\\']
  | '\x08' => ['\\', 'b']
  | '\x0c' => ['\\', 'f']
  | '\n' => ['\\', 'n']
  | '\r' => ['\\', 'r']
  | '\t' => ['\\', 't']
  | c =>
    if c.toNat < 0x20 then
      let ds := Nat.toDigits 16 c.toNat
      ['\\', 'u'] ++ List.replicate (4 - ds.length) '0' ++ ds
    else [c]

def writeString (s : String) : String := String.ofList ('"' :: s.toList.flatMap writeChar ++ ['"'])

/-- A double: positional between `10 ^ -5` and `10 ^ 16`, else with a power of ten. -/
def writeDouble (x : Binary64) : String :=
  let (c, k) := x.magnitude.shortest
  let ds := Nat.toDigits 10 c
  let first : Int := k + ds.length - 1
  let digits :=
    if c = 0 then "0.0"
    else if -5 ≤ first ∧ first < 16 then
      String.ofList x.magnitude.positional ++ (if 0 ≤ k then ".0" else "")
    else
      String.ofList (ds.take 1) ++ (if ds.length = 1 then "" else "." ++ String.ofList (ds.drop 1)) ++
        "e" ++ toString first
  (if x.negative then "-" else "") ++ digits

def writeNumber : JsonNumber → String
  | .integer i => toString i
  | .double x => writeDouble x

mutual
def write : Json → String
  | null => "null"
  | bool true => "true"
  | bool false => "false"
  | number x => writeNumber x
  | string s => writeString s
  | array xs => "[" ++ ",".intercalate (writeItems xs) ++ "]"
  | object ms => "\x7b" ++ ",".intercalate (Bindings.entries (writeMembers ms) |>.map Prod.snd) ++ "\x7d"

def writeItems : List Json → List String
  | [] => []
  | x :: xs => write x :: writeItems xs

/-- Each member's text beside its key. -/
def writeMembers : List (String × Json) → List (String × String)
  | [] => []
  | (k, x) :: ms => (k, writeString k ++ ":" ++ write x) :: writeMembers ms
end

end OracleIntake.Json
