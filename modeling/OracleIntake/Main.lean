import OracleIntake.CommandLine.Command

/-!
# The program

Reads the arguments, the environment and at most one file, and carries out the command.
-/
namespace OracleIntake

/-- What reading a file gives. -/
def readFile (path : String) : IO (Except FileFault String) := do
  try
    return FileFault.decode (← IO.FS.readBinFile path)
  catch e =>
    match e with
    | .noFileOrDirectory .. => return .error .notFound
    | e => return .error (.system (toString e))

/-- The texts of the environment under the keys of settings. -/
def readEnvironment : IO Environment :=
  SettingsKey.ascending.filterMapM fun key => do
    return (← IO.getEnv key.name).map fun text => (key.name, text)

end OracleIntake

open OracleIntake CommandLine in
def main (args : List String) : IO UInt32 := do
  let outcome ← match Command.read? args with
    | none => pure Outcome.misused
    | some command =>
      let content ← match command.file? with
        | some path => readFile path
        | none => pure (.error .notFound)
      pure (command.run (← readEnvironment) content)
  IO.print outcome.stdout
  IO.eprint outcome.stderr
  return UInt32.ofNat outcome.exit
