import PointSum.Log.Record
import PointSum.Settings.Config
import PointSum.Settings.Mode

/-!
# Choosing the mode

The mode comes from the environment variable `PLANAR_NUMERIC`; where that gives none, from the configuration; and
where that gives none either, it is `Mode.fallback`. A source that is there and gives no mode leaves a warning, and
the configuration is only asked if the environment gave no mode.
-/

namespace PointSum.Settings

set_option autoImplicit false

open Log (Record)

def logTarget : String := "planar::config"

def modeVariable : String := "PLANAR_NUMERIC"

def warning (message : String) : Record :=
  .of .warn logTarget ["message"] message

def configPath (home : String) : String :=
  home ++ "/.planar/config.toml"

def ConfigFault.message (path : String) (e : ConfigFault) : String :=
  let quoted := String.ofList (Text.quote path.toList)
  match e with
  | isDirectory => "Failed to read config at " ++ quoted ++ ": Is a directory (os error 21)"
  | notText => "Failed to read config at " ++ quoted ++ ": stream did not contain valid UTF-8"
  | malformed => "Failed to parse config at " ++ quoted ++ ": <toml error>"

/-- The configuration that a file gives, and the warning that it leaves. -/
def ConfigFile.config (home : String) (f : ConfigFile) : Option Config × List Record :=
  match f.load with
  | .ok c => (c, [])
  | .error e => (none, [warning (e.message (configPath home))])

/-- The mode that the environment asks for, and the warning that it leaves. -/
def modeOfEnvironment (value : Option Text.Bytes) : Option Mode × List Record :=
  match value with
  | none => (none, [])
  | some bytes =>
    match Text.decode? bytes with
    | none =>
      (none, [warning ("Ignoring non-UTF-8 " ++ modeVariable ++ " value: " ++ .ofList (Text.quoteBytes bytes))])
    | some cs =>
      match Mode.ofText? cs with
      | some m => (some m, [])
      | none => (none, [warning ("Ignoring unknown " ++ modeVariable ++ " value: " ++ .ofList cs)])

def Config.numeric? (c : Config) : Option String :=
  c.app.bind Section.numeric

/-- The mode that the configuration asks for, and the warning that it leaves. -/
def modeOfConfig (config : Option Config) : Option Mode × List Record :=
  match config.bind Config.numeric? with
  | none => (none, [])
  | some raw =>
    match Mode.ofText? raw.toList with
    | some m => (some m, [])
    | none => (none, [warning ("Unknown numeric mode in config: " ++ raw)])

/-- The mode to work in, and the warnings that the sources leave. -/
def resolve (value : Option Text.Bytes) (config : Option Config) : Mode × List Record :=
  match modeOfEnvironment value with
  | (some m, records) => (m, records)
  | (none, records) =>
    let (mode, more) := modeOfConfig config
    (mode.getD .fallback, records ++ more)

end PointSum.Settings
