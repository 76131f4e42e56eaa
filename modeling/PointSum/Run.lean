import PointSum.CommandLine.Request
import PointSum.Log.Filter
import PointSum.Number.Word
import PointSum.Point.Reading
import PointSum.Settings.Resolve

/-!
# Runs of the program

A run is a function of what the program finds around it: the command line, two environment variables, the home
directory and the configuration file. It ends with a status, the text of the output, the text of the error output and
the log. The filter is read before anything else, and where that traps the run ends with it. Else the log is what the
filter selects from all records of the run, and nothing else depends on the filter.
-/

namespace PointSum

set_option autoImplicit false

open Number Settings Log

/-! ## Adding -/

/-- Why an addition of two points given as text has no result. -/
inductive SumFault where
  /-- One of the texts is no point. -/
  | point (e : PointFault)
  | overflow (o : Overflow)
  | trap (t : Trap)
  deriving DecidableEq, Repr

/-- The sentences of a fault, the outermost first. -/
def SumFault.chain : SumFault → List String
  | point e => e.chain
  | overflow o => [o.message]
  | trap t => [t.message]

def SumFault.message (e : SumFault) : String :=
  String.intercalate ": " e.chain

def readPoints (α : Type) [Scalar α] (lhs rhs : String) : Except SumFault (Point α × Point α) :=
  match Point.read α lhs with
  | .error e => .error (.point e)
  | .ok p =>
    match Point.read α rhs with
    | .error e => .error (.point e)
    | .ok q => .ok (p, q)

/-- The text of the sum of two points given as text. Integers that do not fit are a fault; binary numbers always
have a sum. -/
def sumText (mode : Mode) (lhs rhs : String) : Except SumFault String :=
  match mode with
  | .int =>
    match readPoints (Word .int64) lhs rhs with
    | .error e => .error e
    | .ok (p, q) =>
      match p.add? q with
      | .error o => .error (.overflow o)
      | .ok sum => .ok sum.text
  | .float =>
    match readPoints (Binary .double) lhs rhs with
    | .error e => .error e
    | .ok (p, q) =>
      match p.add q with
      | .error t => .error (.trap t)
      | .ok sum => .ok sum.text

/-! ## The program -/

/-- Where a run comes upon a trap and ends. -/
inductive RunTrap where
  | filter (t : FilterTrap)
  | addition (t : Trap)
  deriving DecidableEq, Repr

def RunTrap.message : RunTrap → String
  | filter t => t.message
  | addition t => t.message

/-- What a run finds around it. -/
structure Surroundings where
  /-- The words of the command line behind the name of the program. -/
  arguments : List Text.Bytes
  /-- The value of `PLANAR_NUMERIC`, if it is set. -/
  numeric : Option Text.Bytes
  /-- The value of `RUST_LOG`, if it is set. -/
  filter : Option Text.Bytes
  home : String
  /-- What is in the place of the configuration file. -/
  config : ConfigFile
  /-- What the system writes about a trap: the message, in a frame that names the place in the program. -/
  report : RunTrap → String := fun t => t.message ++ "\n"

structure Outcome where
  status : Nat
  output : String
  /-- The text of the error output, without the log. -/
  errors : String
  log : List Record
  deriving DecidableEq, Repr

def loadedRecord (home : String) : Record :=
  .of .debug Settings.logTarget ["message", "path"] ("Loaded config path=" ++ configPath home)

def addingRecord (mode : Mode) (r : CommandLine.Request) : Record :=
  .of .debug "planar" ["message", "mode", "lhs", "rhs"]
    ("Adding points mode=" ++ mode.literal ++ " lhs=" ++ .ofList (Text.quote r.lhs.toList) ++
      " rhs=" ++ .ofList (Text.quote r.rhs.toList))

/-- The configuration of a run, with all records of loading it. -/
def loadConfig (s : Surroundings) : Option Config × List Record :=
  match s.config.config s.home with
  | (some c, records) => (some c, records ++ [loadedRecord s.home])
  | (none, records) => (none, records)

/-- The mode of a run that adds, with all records up to there. -/
def chooseMode (s : Surroundings) : Mode × List Record :=
  let (config, loading) := loadConfig s
  let (mode, resolving) := resolve s.numeric config
  (mode, loading ++ resolving)

def trapped (s : Surroundings) (t : RunTrap) (records : List Record) : Outcome :=
  ⟨101, "", s.report t, records⟩

/-- The outcome of a run whose addition has no result. -/
def faulted (s : Surroundings) (records : List Record) : SumFault → Outcome
  | .trap t => trapped s (.addition t) records
  | e => ⟨1, "", "Error: " ++ e.message ++ "\n", records⟩

/-- The outcome of a run that adds, with all records. -/
def runRequest (s : Surroundings) (r : CommandLine.Request) : Outcome :=
  let (mode, choosing) := chooseMode s
  let records := choosing ++ [addingRecord mode r]
  match sumText mode r.lhs r.rhs with
  | .ok sum => ⟨0, sum ++ "\n", "", records⟩
  | .error e => faulted s records e

def stopped (s : CommandLine.Stop) : Outcome :=
  if s.isAnswer then ⟨s.status, s.written, "", []⟩ else ⟨s.status, "", s.written, []⟩

/-- The outcome of a run whose filter is read, with all records. -/
def runUnfiltered (s : Surroundings) : Outcome :=
  match CommandLine.read s.arguments with
  | .error stop => stopped stop
  | .ok r => runRequest s r

/-- The outcome of a run. -/
def run (s : Surroundings) : Outcome :=
  match Filter.ofSetting s.filter with
  | .error t => trapped s (.filter t) []
  | .ok fs =>
    let o := runUnfiltered s
    { o with log := fs.select o.log }

end PointSum
