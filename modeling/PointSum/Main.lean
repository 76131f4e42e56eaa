import PointSum.Run

/-!
# The command line program

Gathers what a run finds around it, runs, and writes what the run leaves behind: the log and the errors to the error
output, the rest to the output.
-/

namespace PointSum

set_option autoImplicit false

/-- What is in the place of the configuration file. -/
def findConfig (path : String) : IO Settings.ConfigFile := do
  try
    return .file (← IO.FS.readBinFile path).toList
  catch
    | .noFileOrDirectory .. => return .missing
    | _ => return .directory

/-- The line of a record in the log. -/
def logLine (r : Log.Record) : String :=
  r.level.name ++ " " ++ r.target ++ ": " ++ r.message

/-- Runs the program once. -/
def runOnce (arguments : List String) : IO UInt32 := do
  let bytes (s : String) : Text.Bytes := s.toUTF8.toList
  let home := (← IO.getEnv "HOME").getD ""
  let outcome := run {
    arguments := arguments.map bytes
    numeric := (← IO.getEnv Settings.modeVariable).map bytes
    filter := (← IO.getEnv "RUST_LOG").map bytes
    home := home
    config := ← findConfig (Settings.configPath home) }
  for r in outcome.log do
    IO.eprintln (logLine r)
  IO.eprint outcome.errors
  IO.print outcome.output
  return .ofNat outcome.status

end PointSum

/-- The program. -/
def main (arguments : List String) : IO UInt32 :=
  PointSum.runOnce arguments
