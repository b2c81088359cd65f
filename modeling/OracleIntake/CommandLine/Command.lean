import OracleIntake.Column.Mapper
import OracleIntake.CommandLine.Grammar
import OracleIntake.Connection.State
import OracleIntake.Json.Reader
import OracleIntake.Settings.File

/-!
# Commands

The program's commands: check a connection, show the settings, resolve the column type of one field, and list
the columns of a schema. A command is read from arguments; it then needs at most one file, and carrying it out
is a function of the environment and that file.
-/
namespace OracleIntake.CommandLine

def programName : String := "oraload"

def programVersion : String := "0.1.0"

def programSummary : String := "Oracle connection diagnostics and schema-to-DDL type mapping"

def secondsKind : ValueKind := .number max64

def lengthKind : ValueKind := .integer max32

def checkForm : CommandForm :=
  { name := "check"
    summary := "Open a session and print a JSON connection report"
    argument := none
    options := [
      ⟨"env-file", "ENV_FILE", .path, "Read ORACLE_* settings from this file instead of the environment"⟩,
      ⟨"timeout", "TIMEOUT", secondsKind, "Give up connecting after this many seconds"⟩] }

def configForm : CommandForm :=
  { name := "config"
    summary := "Print the effective connection settings (password redacted)"
    argument := none
    options := [⟨"env-file", "ENV_FILE", .path, ""⟩] }

def resolveForm : CommandForm :=
  { name := "resolve"
    summary := "Resolve the column type for one field"
    argument := some ⟨"FIELD", .text, "Source field name"⟩
    options := [
      ⟨"tag", "TAG", .text, "Explicit metadata type tag"⟩,
      ⟨"json-type", "JSON_TYPE", .text, "JSON-schema type of the field"⟩,
      ⟨"format", "FORMAT", .text, "JSON-schema format of the field"⟩,
      ⟨"max-length", "MAX_LENGTH", lengthKind, "JSON-schema maxLength of the field"⟩,
      ⟨"sample", "SAMPLE", .text, "Sample value as JSON (e.g. '\"2024-03-01\"' or 42)"⟩] }

def columnsForm : CommandForm :=
  { name := "columns"
    summary := "Print column definitions for every property of a JSON schema file"
    argument := some ⟨"FILE", .path, "Path to the JSON schema"⟩
    options := [] }

/-- The commands that do something, in the order of the help. -/
def forms : List CommandForm := [checkForm, configForm, resolveForm, columnsForm]

def helpSummary : String := "Print this message or the help of the given subcommand(s)"

def programHelp : String :=
  programSummary ++ "\n\nUsage: " ++ programName ++ " <COMMAND>\n\nCommands:\n" ++
    CommandForm.table (forms.map (fun f => (f.name, f.summary)) ++ [("help", helpSummary)]) ++
    "\nOptions:\n" ++
    CommandForm.table [("-h, --help", "Print help"), ("-V, --version", "Print version")]

def helpHelp : String :=
  helpSummary ++ "\n\nUsage: " ++ programName ++ " help [COMMAND]...\n\nArguments:\n" ++
    CommandForm.table [("[COMMAND]...", "Print help for the subcommand(s)")]

structure FieldFlags where
  field : String
  tag : Option String := none
  jsonType : Option String := none
  format : Option String := none
  maxLength : Option Nat := none
  /-- A sample value as JSON text. -/
  sample : Option String := none
  deriving DecidableEq, Repr

inductive Command where
  | check (settingsFile : Option String) (timeout : Option Nat)
  | config (settingsFile : Option String)
  | resolve (flags : FieldFlags)
  | columns (file : String)
  | printed (text : String)
  deriving DecidableEq, Repr

namespace Command

/-- The number that an option has for its value. -/
def numberOf? (kind : ValueKind) (args : Arguments) (name : String) : Option Nat :=
  (args.options.value? name).bind fun s => kind.number? s

/-- Reads the arguments of one form. -/
def ofForm (f : CommandForm) (args : List String) (make : Arguments → Command) : Option Command :=
  match f.read args with
  | .ok args => some (make args)
  | .error .help => some (printed (f.help programName))
  | .error .misuse => none

def helpOn? : List String → Option String
  | [] => some programHelp
  | ["help"] => some helpHelp
  | [name] => (forms.find? (·.name == name)).map (·.help programName)
  | _ => none

/-- Reads a command from the program's arguments; none if they are misused. -/
def read? : List String → Option Command
  | [] => none
  | name :: args =>
    if name = "check" then
      ofForm checkForm args fun a => .check (a.options.value? "env-file") (numberOf? secondsKind a "timeout")
    else if name = "config" then ofForm configForm args fun a => .config (a.options.value? "env-file")
    else if name = "resolve" then
      ofForm resolveForm args fun a => .resolve {
        field := a.argument.getD ""
        tag := a.options.value? "tag"
        jsonType := a.options.value? "json-type"
        format := a.options.value? "format"
        maxLength := numberOf? lengthKind a "max-length"
        sample := a.options.value? "sample" }
    else if name = "columns" then ofForm columnsForm args fun a => .columns (a.argument.getD "")
    else if name = "help" then (helpOn? args).map .printed
    else if name = "--help" then some (.printed programHelp)
    else if name = "--version" then some (.printed (programName ++ " " ++ programVersion ++ "\n"))
    else match name.toList with
      | '-' :: 'h' :: _ => some (.printed programHelp)
      | '-' :: 'V' :: _ => some (.printed (programName ++ " " ++ programVersion ++ "\n"))
      | _ => none

/-- The file that the command reads. -/
def file? : Command → Option String
  | check f _ => f
  | config f => f
  | columns f => some f
  | _ => none

end Command

structure Outcome where
  exit : Nat
  stdout : String := ""
  stderr : String := ""
  deriving DecidableEq, Repr

namespace Outcome

def printing (text : String) : Outcome := { exit := 0, stdout := text }

def failing (reason : String) : Outcome := { exit := 1, stderr := "Error: " ++ reason ++ "\n" }

/-- Arguments that are not understood. -/
def misused : Outcome :=
  { exit := 2, stderr := "error: invalid arguments\n\nFor more information, try '--help'.\n" }

end Outcome

/-- The settings: those of a file, if one is named, or else those of the environment. -/
def loadSettings (settingsFile : Option String) (env : Environment) (content : Except FileFault String) :
    Except String Settings :=
  match settingsFile with
  | some path =>
    match SettingsFile.load path content with
    | .ok env => (Settings.read env).mapError Fault.text
    | .error reason => .error ("reading " ++ path ++ ": " ++ (Fault.settings reason).text)
  | none => (Settings.read env).mapError Fault.text

/-- Checks the connection that the settings describe. Without a built-in driver there is nothing to check. -/
def runCheck (settings : Except String Settings) : Outcome :=
  match settings with
  | .error reason => .failing reason
  | .ok s => match BuiltIn.connection s with
    | .error fault => .failing fault.text
    | .ok c => .printing (c.target.elim "" Target.displayName)

def runConfig (settings : Except String Settings) : Outcome :=
  match settings with
  | .error reason => .failing reason
  | .ok s => .printing ("".intercalate (s.environment.map fun (key, text) => key ++ "=" ++ text ++ "\n"))

/-- The fragment that flags describe, if any of them does. -/
def FieldFlags.fragment? (f : FieldFlags) : Option Fragment :=
  if f.jsonType.isSome || f.format.isSome || f.maxLength.isSome then
    some { types := f.jsonType.toList, format := f.format, maxLength := f.maxLength }
  else none

def runResolve (f : FieldFlags) : Outcome :=
  let resolved (sample : Option Json) : Outcome :=
    .printing
      (({ field := f.field, tag := f.tag, fragment := f.fragment?, sample } : Evidence).columnType.text ++ "\n")
  match f.sample with
  | none => resolved none
  | some text => match Json.parse? text with
    | some sample => resolved (some sample)
    | none => .failing "--sample is not valid JSON: malformed text"

def runColumns (file : String) (content : Except FileFault String) : Outcome :=
  match content with
  | .error reason => .failing ("reading " ++ file ++ ": " ++ reason.text)
  | .ok text => match Json.parse? text with
    | none => .failing ("parsing " ++ file ++ ": malformed text")
    | some schema =>
      match Mapper.columns {} schema with
      | [] => .failing (file ++ " has no properties")
      | columns => .printing (Column.render columns ++ "\n")

/-- Carries out a command in an environment; `content` is what reading its file gave. -/
def Command.run (env : Environment) (content : Except FileFault String) : Command → Outcome
  | check f _ => runCheck (loadSettings f env content)
  | config f => runConfig (loadSettings f env content)
  | resolve flags => runResolve flags
  | columns file => runColumns file content
  | printed text => .printing text

end OracleIntake.CommandLine
