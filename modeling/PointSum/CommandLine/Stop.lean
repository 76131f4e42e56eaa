import PointSum.CommandLine.Help
import PointSum.Text.ControlSequence

/-!
# Stops

A command line that names no complete command stops the program: it asks for help or for the version, or there is
something wrong with it. Help and version that were asked for go to the output with status 0, all other stops go to
the error output with status 2.

The text of a stop may repeat words of the command line. What a terminal would take for a command is left out of them.
-/

namespace PointSum.CommandLine

set_option autoImplicit false

/-- A hint below an error. -/
inductive Tip where
  /-- Commands whose names are similar to the word. -/
  | similarCommands (names : List String)
  | similarFlag (flag : Flag)
  /-- The word can be given as a value behind `--`. -/
  | escapeValue (word : String)
  /-- The word is a command if the `--` before it is left out. -/
  | dropEscape (command : String)
  deriving DecidableEq, Repr

namespace Tip

/-- The wording of a hint, with words as `spell` makes them. -/
def text (spell : String → String) : Tip → String
  | similarCommands [name] => "a similar subcommand exists: '" ++ name ++ "'"
  | similarCommands names =>
    "some similar subcommands exist: " ++ String.intercalate ", " (names.map fun n => "'" ++ n ++ "'")
  | similarFlag flag => "a similar argument exists: '" ++ flag.written ++ "'"
  | escapeValue word => "to pass '" ++ spell word ++ "' as a value, use '-- " ++ spell word ++ "'"
  | dropEscape command => "subcommand '" ++ command ++ "' exists; to use it, remove the '--' before it"

def flag? : Tip → Option Flag
  | similarFlag flag => some flag
  | _ => none

end Tip

/-- Why a command line does not lead to an addition. -/
inductive Stop where
  | help (scope : Scope)
  | version
  | commandMissing
  | unknownCommand (scope : Scope) (word : String) (tip : Option Tip)
  | unknownArgument (scope : Scope) (word : String) (tip : Option Tip)
  /-- A flag was given a value. All points may have been read before it. -/
  | surplusValue (scope : Scope) (flag : Flag) (value : String) (complete : Bool)
  | operandsMissing (names : List String)
  | notText
  deriving DecidableEq, Repr

namespace Stop

/-- Whether the stop is an answer and not an error. -/
def isAnswer : Stop → Bool
  | help _ | version => true
  | _ => false

def status (s : Stop) : Nat :=
  if s.isAnswer then 0 else 2

def scope : Stop → Scope
  | help scope => scope
  | version => .program
  | commandMissing => .program
  | unknownCommand scope _ _ => scope
  | unknownArgument scope _ _ => scope
  | surplusValue scope _ _ _ => scope
  | operandsMissing _ => .add
  | notText => .add

/-- The usage line of an error. -/
def usage : Stop → String
  | unknownArgument scope _ tip => scope.usage (tip.bind Tip.flag?) false
  | surplusValue scope flag _ complete => scope.usage (some flag) complete
  | s => s.scope.usage none false

def tip? : Stop → Option Tip
  | unknownCommand _ _ tip => tip
  | unknownArgument _ _ tip => tip
  | _ => none

def fault (spell : String → String) : Stop → String
  | unknownCommand _ word _ => "unrecognized subcommand '" ++ spell word ++ "'"
  | unknownArgument _ word _ => "unexpected argument '" ++ spell word ++ "' found"
  | surplusValue _ flag value _ =>
    "unexpected value '" ++ spell value ++ "' for '" ++ flag.written ++ "' found; no more were expected"
  | operandsMissing names =>
    "the following required arguments were not provided:" ++ String.join (names.map fun n => "\n  <" ++ n ++ ">")
  | notText => "invalid UTF-8 was detected in one or more arguments"
  | _ => ""

/-- The text of a stop, with words as `spell` makes them: a help text, the version, or an error with its hint and its
usage line. The command `help` has no flag to point to. -/
def text (spell : String → String) : Stop → String
  | help scope => scope.helpText
  | version => versionText
  | commandMissing => Scope.program.helpText
  | s =>
    let hint := match s.tip? with
      | some t => "  tip: " ++ t.text spell ++ "\n\n"
      | none => ""
    let more := if s.scope.flags.contains .help then "\nFor more information, try '--help'.\n" else ""
    "error: " ++ s.fault spell ++ "\n\n" ++ hint ++ "Usage: " ++ s.usage ++ "\n" ++ more

def message (s : Stop) : String :=
  s.text (Text.strip .ends)

/-- The text of a stop as it is written to an output. -/
def written (s : Stop) : String :=
  s.text (Text.strip .lasts)

end Stop

end PointSum.CommandLine
