import OracleIntake.Bindings
import OracleIntake.Number.Numeral

/-!
# Arguments

The form of a command's arguments: options with a value each, at most one argument without a name, and a
request for help. An option and its value are two arguments or one with an equals sign; an option may be given
once. Behind two hyphens every argument stands for itself.
-/
namespace OracleIntake.CommandLine

inductive ValueKind where
  | text
  /-- A text that is not empty. -/
  | path
  /-- A number up to `max`; a plus sign is allowed. -/
  | number (max : Nat)
  /-- An integer from 0 to `max`; either sign is allowed, so that a zero may be negative. -/
  | integer (max : Nat)
  deriving DecidableEq, Repr

/-- The number that a value is, where one is asked for. -/
def ValueKind.number? (s : String) : ValueKind → Option Nat
  | number max => Numeral.natural? max s.toList
  | integer max =>
    (Numeral.integer? s.toList).bind fun i => if 0 ≤ i ∧ i ≤ max then some i.toNat else none
  | text | path => none

def ValueKind.accepts (s : String) : ValueKind → Bool
  | text => true
  | path => !s.isEmpty
  | kind => (kind.number? s).isSome

structure OptionForm where
  name : String
  placeholder : String
  kind : ValueKind
  summary : String
  deriving DecidableEq, Repr

structure ArgumentForm where
  placeholder : String
  kind : ValueKind
  summary : String
  deriving DecidableEq, Repr

structure CommandForm where
  name : String
  summary : String
  argument : Option ArgumentForm
  options : List OptionForm
  deriving DecidableEq, Repr

structure Arguments where
  options : Bindings String := []
  argument : Option String := none

/-- Why arguments are not carried out. -/
inductive Stop where
  | help
  | misuse
  deriving DecidableEq, Repr

namespace CommandForm

def takeOption (f : CommandForm) (args : Arguments) (name value : String) : Except Stop Arguments :=
  match f.options.find? (·.name == name) with
  | some o =>
    if (args.options.value? name).isSome || !o.kind.accepts value then .error .misuse
    else .ok { args with options := args.options ++ [(name, value)] }
  | none => .error .misuse

def takeArgument (f : CommandForm) (args : Arguments) (value : String) : Except Stop Arguments :=
  match f.argument, args.argument with
  | some a, none => if a.kind.accepts value then .ok { args with argument := some value } else .error .misuse
  | _, _ => .error .misuse

/-- Takes in arguments behind two hyphens. -/
def takeRest (f : CommandForm) (args : Arguments) : List String → Except Stop Arguments
  | [] => .ok args
  | s :: rest => f.takeArgument args s >>= fun args => f.takeRest args rest

/-- An argument that looks like an option: a hyphen and more. -/
def looksLikeOption (s : String) : Bool := s.toList.head? == some '-' && 1 < s.length

/-- The name and the value of an option in one argument. -/
def splitOption (s : List Char) : String × Option String :=
  match s.dropWhile (· != '=') with
  | _ :: value => (String.ofList (s.takeWhile (· != '=')), some (String.ofList value))
  | [] => (String.ofList s, none)

def take (f : CommandForm) (args : Arguments) : List String → Except Stop Arguments
  | [] => .ok args
  | s :: rest =>
    match s.toList with
    | ['-', '-'] => f.takeRest args rest
    | '-' :: '-' :: long =>
      match splitOption long with
      | ("help", none) => .error .help
      | (name, some value) => f.takeOption args name value >>= fun args => f.take args rest
      | (name, none) =>
        match rest with
        | value :: rest =>
          if looksLikeOption value then .error .misuse
          else f.takeOption args name value >>= fun args => f.take args rest
        | [] => .error .misuse
    | '-' :: 'h' :: _ => .error .help
    | '-' :: _ :: _ => .error .misuse
    | _ => f.takeArgument args s >>= fun args => f.take args rest

def read (f : CommandForm) (args : List String) : Except Stop Arguments := do
  let read ← f.take {} args
  if f.argument.isSome && read.argument.isNone then .error .misuse else .ok read

/-! ## Help -/

/-- Two columns, the second aligned. -/
def table (rows : List (String × String)) : String :=
  let width := (rows.map fun r => r.1.length).foldl max 0
  "".intercalate (rows.map fun (left, right) =>
    "  " ++ left ++ String.ofList (List.replicate (width - left.length + 2) ' ') ++ right ++ "\n")

def help (program : String) (f : CommandForm) : String :=
  let usage := "Usage: " ++ program ++ " " ++ f.name ++ (if f.options.isEmpty then "" else " [OPTIONS]") ++
    (match f.argument with
      | some a => " <" ++ a.placeholder ++ ">"
      | none => "")
  let arguments := match f.argument with
    | some a => "Arguments:\n" ++ table [("<" ++ a.placeholder ++ ">", a.summary)] ++ "\n"
    | none => ""
  let options := f.options.map fun o => ("    --" ++ o.name ++ " <" ++ o.placeholder ++ ">", o.summary)
  f.summary ++ "\n\n" ++ usage ++ "\n\n" ++ arguments ++ "Options:\n" ++
    table (options ++ [("-h, --help", "Print help")])

end CommandForm
end OracleIntake.CommandLine
