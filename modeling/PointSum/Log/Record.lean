import PointSum.Text.Quoted

/-!
# Log records

A record has a level, a target that names the part of the program it comes from, the names of its fields and a
message. Messages are stored in the form that a terminal only shows.
-/

namespace PointSum.Log

set_option autoImplicit false

inductive Level where
  | error
  | warn
  | info
  | debug
  | trace
  deriving DecidableEq, Repr

/-- The place of a level among the levels, from one on. -/
def Level.rank : Level → Nat
  | error => 1
  | warn => 2
  | info => 3
  | debug => 4
  | trace => 5

def Level.name : Level → String
  | error => "ERROR"
  | warn => "WARN"
  | info => "INFO"
  | debug => "DEBUG"
  | trace => "TRACE"

structure Record where
  level : Level
  /-- The part of the program that wrote it. -/
  target : String
  fields : List String
  message : String
  deriving DecidableEq, Repr

/-- The record with the message in the form that a terminal only shows. -/
def Record.of (level : Level) (target : String) (fields : List String) (message : String) : Record :=
  ⟨level, target, fields, .ofList (Text.disarm message.toList)⟩

end PointSum.Log
