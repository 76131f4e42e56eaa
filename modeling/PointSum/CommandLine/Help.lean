/-!
# Help texts

The commands of the program, the flags that each of them knows, and the texts that describe them.
-/

namespace PointSum.CommandLine

set_option autoImplicit false

/-- The program and its two commands. -/
inductive Scope where
  /-- The program before a command is named. -/
  | program
  | add
  | help
  deriving DecidableEq, Repr

/-- What can be asked for by a flag. Every flag ends the reading of the command line. -/
inductive Flag where
  | help
  | version
  deriving DecidableEq, Repr

namespace Flag

def name : Flag → String
  | help => "help"
  | version => "version"

def letter : Flag → Char
  | help => 'h'
  | version => 'V'

def written (f : Flag) : String := "--" ++ f.name

end Flag

namespace Scope

/-- The flags known there. -/
def flags : Scope → List Flag
  | program => [.help, .version]
  | add => [.help]
  | help => []

def commands : Scope → List (String × Scope)
  | program => [("add", add), ("help", help)]
  | add => []
  | help => []

/-- What the usage line says to put in: what is missing, or the points as one group when both are there. -/
def operands (s : Scope) (complete : Bool) : String :=
  match s with
  | program => "<COMMAND>"
  | add => if complete then "<LHS|RHS>" else "<LHS> <RHS>"
  | help => "[COMMAND]..."

/-- The words that lead to the place. -/
def path : Scope → String
  | program => "planar"
  | add => "planar add"
  | help => "planar help"

/-- The usage line, with a flag that was used. -/
def usage (s : Scope) (used : Option Flag) (complete : Bool) : String :=
  let flag := match used with
    | some f => " " ++ f.written
    | none => ""
  s.path ++ flag ++ " " ++ s.operands complete

def helpLines : Scope → List String
  | program => [
    "Add two-dimensional points component-wise",
    "",
    "Usage: planar <COMMAND>",
    "",
    "Commands:",
    "  add   Add two points and print the result as (x, y)",
    "  help  Print this message or the help of the given subcommand(s)",
    "",
    "Options:",
    "  -h, --help     Print help",
    "  -V, --version  Print version",
    "",
    "Environment:",
    "  PLANAR_NUMERIC   int | float (overrides ~/.planar/config.toml)",
    "  RUST_LOG         log filter, default \"warn\""]
  | add => [
    "Add two points and print the result as (x, y)",
    "",
    "Usage: planar add <LHS> <RHS>",
    "",
    "Arguments:",
    "  <LHS>  First point, as X,Y",
    "  <RHS>  Second point, as X,Y",
    "",
    "Options:",
    "  -h, --help  Print help"]
  | help => [
    "Print this message or the help of the given subcommand(s)",
    "",
    "Usage: planar help [COMMAND]...",
    "",
    "Arguments:",
    "  [COMMAND]...  Print help for the subcommand(s)"]

def helpText (s : Scope) : String :=
  String.join (s.helpLines.map (· ++ "\n"))

end Scope

def versionText : String := "planar 0.1.0\n"

end PointSum.CommandLine
