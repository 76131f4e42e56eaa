import PointSum.Text.Characters

/-!
# Modes

A mode is the kind of number that the program adds: words of sixty-four bits, or binary numbers in double precision.
Its name is read with blank characters around it and in letters of either case.
-/

namespace PointSum.Settings

set_option autoImplicit false

inductive Mode where
  /-- Signed words of sixty-four bits. -/
  | int
  /-- Binary numbers in double precision. -/
  | float
  deriving DecidableEq, Repr

namespace Mode

/-- The mode where none is asked for. -/
def fallback : Mode := .int

def name : Mode → String
  | int => "int"
  | float => "float"

/-- The name of a mode as a constructor. -/
def literal : Mode → String
  | int => "Int"
  | float => "Float"

def ofText? (raw : List Char) : Option Mode :=
  let word := (Text.trim raw).map Char.toLower
  if word = int.name.toList then some int
  else if word = float.name.toList then some float
  else none

end Mode

end PointSum.Settings
